import KuWarden.Python.Text

/-!
The exceptions the engine raises or lets through. `ErrorKind` is the class;
`subclassOf` records the part of the hierarchy that some `except` clause reads.
-/
namespace KuWarden

inductive ErrorKind
  | kuWardenError | invariantViolation | riskTierLowered | protectedPathWritten
  | policyDenied | gateRejected | sandboxInfrastructureError
  | adapterError | permissionDenied | notFound | treeTooLarge | configError | secretKeyError
  | llmError | llmAuthError | llmOutputTruncated | llmRequestRejected | modelRefusal
  | typeError | valueError | attributeError | keyError | indexError | overflowError
  | nameError | runtimeError | lookupError
  | osError | isADirectoryError | notADirectoryError | fileExistsError
  | timeoutError
  deriving DecidableEq, Repr

namespace ErrorKind

/-- The class name, which is what crosses the activity boundary. -/
def name : ErrorKind → String
  | .kuWardenError => "KuWardenError"
  | .invariantViolation => "InvariantViolation"
  | .riskTierLowered => "RiskTierLowered"
  | .protectedPathWritten => "ProtectedPathWritten"
  | .policyDenied => "PolicyDenied"
  | .gateRejected => "GateRejected"
  | .sandboxInfrastructureError => "SandboxInfrastructureError"
  | .adapterError => "AdapterError"
  | .permissionDenied => "PermissionDenied"
  | .notFound => "NotFound"
  | .treeTooLarge => "TreeTooLarge"
  | .configError => "ConfigError"
  | .secretKeyError => "SecretKeyError"
  | .llmError => "LLMError"
  | .llmAuthError => "LLMAuthError"
  | .llmOutputTruncated => "LLMOutputTruncated"
  | .llmRequestRejected => "LLMRequestRejected"
  | .modelRefusal => "ModelRefusal"
  | .typeError => "TypeError"
  | .valueError => "ValueError"
  | .attributeError => "AttributeError"
  | .keyError => "KeyError"
  | .indexError => "IndexError"
  | .overflowError => "OverflowError"
  | .nameError => "NameError"
  | .runtimeError => "RuntimeError"
  | .lookupError => "LookupError"
  | .osError => "OSError"
  | .isADirectoryError => "IsADirectoryError"
  | .notADirectoryError => "NotADirectoryError"
  | .fileExistsError => "FileExistsError"
  | .timeoutError => "TimeoutError"

/-- `LLMError` and its subclasses. -/
def isLLMError : ErrorKind → Bool
  | .llmError | .llmAuthError | .llmOutputTruncated | .llmRequestRejected
  | .modelRefusal => true
  | _ => false

/-- `KuWardenError` and its subclasses. -/
def isKuWardenError : ErrorKind → Bool
  | .kuWardenError | .invariantViolation | .riskTierLowered | .protectedPathWritten
  | .policyDenied | .gateRejected | .sandboxInfrastructureError
  | .adapterError | .permissionDenied | .notFound | .treeTooLarge | .configError
  | .secretKeyError => true
  | kind => kind.isLLMError

/-- `OSError` and its subclasses. -/
def isOSError : ErrorKind → Bool
  | .osError | .isADirectoryError | .notADirectoryError | .fileExistsError
  | .timeoutError => true
  | _ => false

end ErrorKind

/-- An exception: its class, what it says, and the category a `ModelRefusal` carries. -/
structure PyError where
  kind : ErrorKind
  message : String
  category : Option String := none
  deriving DecidableEq, Repr

namespace Api

/-- What a request to the API ends with instead of an answer. -/
inductive ApiExc
  | http (status : Nat) (detail : String)
  | raised (exc : PyError)

def abort {α : Type} (status : Nat) (detail : String) : Except ApiExc α :=
  .error (.http status detail)

def raising {α : Type} (r : Except PyError α) : Except ApiExc α := r.mapError .raised

end Api
end KuWarden
