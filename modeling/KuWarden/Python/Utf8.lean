import Mathlib.Data.List.Basic
import Mathlib.Tactic.Common

/-!
Text as the bytes that encode it.
-/
namespace KuWarden.Utf8

/-- `s.encode()`. -/
def encode (s : String) : List UInt8 := s.toList.flatMap String.utf8EncodeChar

/-- `bytes.decode()`, or `none` where it raises. -/
def decode (bytes : List UInt8) : Option String := String.fromUTF8? bytes.toByteArray

theorem toByteArray_encode (s : String) : (encode s).toByteArray = s.toByteArray := by
  have same : (String.ofList s.toList).toByteArray = s.toByteArray := by rw [String.ofList_toList]
  rw [← same, String.toByteArray_ofList]
  rfl

theorem decode_encode (s : String) : decode (encode s) = some s := by
  rw [decode, toByteArray_encode, String.fromUTF8?, dif_pos s.isValidUTF8]
  rfl

theorem encode_inj {s t : String} (same : encode s = encode t) : s = t := by
  have decoded := congrArg decode same
  rw [decode_encode, decode_encode] at decoded
  exact Option.some.inj decoded

end KuWarden.Utf8
