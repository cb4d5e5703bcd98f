import KuWarden.Errors

/-!
Whether the configuration at hand governs the application a run is for.
-/
namespace KuWarden

def assertConfiguredFor (configured requested : String) : Except PyError Unit :=
  if requested = "" then
    .error ⟨.policyDenied,
      "this run does not name the application it is for, so it cannot be checked " ++
        "against the loaded configuration for " ++ Text.repr configured ++
        ". Start it from the Workbench, which records the application.", none⟩
  else if Text.casefold (Text.strip configured) ≠ Text.casefold (Text.strip requested) then
    .error ⟨.policyDenied,
      "this worker is configured for " ++ Text.repr configured ++ " but the run is for " ++
        Text.repr requested ++ ". One worker serves one application's kuwarden.yaml: start " ++
        "a second worker with KUWARDEN_CONFIG pointing at that application's file, rather " ++
        "than letting this run read the wrong repository, tiering rules and merge policy.",
      none⟩
  else .ok ()

end KuWarden
