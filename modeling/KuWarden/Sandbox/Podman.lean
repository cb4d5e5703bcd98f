import KuWarden.Nodes.Base

/-!
What the podman sandbox reports of one execution: its exit code and its output, and the bounds
that these, and the time it took, point to.
-/
namespace KuWarden.Podman

/-- `_limits_hit`: which bound was reached, if any. -/
def limitsHit (code : Int) (stderr : String) (durationMs : Int) (limits : ResourceLimits) :
    List String :=
  (if code = 124 ∨ durationMs ≥ limits.timeoutS * 1000 then ["timeout"] else []) ++
  -- 137 is SIGKILL, which is how a memory limit presents.
  (if code = 137 ∨ Text.occurs "MemoryError" stderr ∨ Text.occurs "Out of memory" stderr
    then ["memory"] else []) ++
  (if Text.occurs "No space left on device" stderr then ["disk"] else []) ++
  (if Text.occurs "Temporary failure in name resolution" stderr ∨
    Text.occurs "Network is unreachable" stderr then ["egress-denied"] else [])

/-- What `exec` makes of a command that has run. -/
def report (code : Int) (out err : String) (durationMs : Int) (limits : ResourceLimits)
    (capabilities : SandboxCapabilities) : ExecResult where
  exitCode := code
  stdout := out
  stderr := err
  durationMs := durationMs
  limitsHit := limitsHit code err durationMs limits
  enforced := some capabilities

/-- The texts by which a bound shows on `stderr`. -/
def bounds : List String := ["MemoryError", "Out of memory", "No space left on device",
  "Temporary failure in name resolution", "Network is unreachable"]

/-- The command took less than its time, and wrote of no bound. -/
structure Unbounded (err : String) (durationMs : Int) (limits : ResourceLimits) : Prop where
  in_time : durationMs < limits.timeoutS * 1000
  silent : ∀ bound ∈ bounds, Text.occurs bound err = false

theorem limits_hit_eq_nil {err : String} {durationMs : Int} {limits : ResourceLimits} :
    limitsHit 0 err durationMs limits = [] ↔ Unbounded err durationMs limits := by
  have parts : limitsHit 0 err durationMs limits = [] ↔
      durationMs < limits.timeoutS * 1000 ∧ ∀ bound ∈ bounds, Text.occurs bound err = false := by
    simp [limitsHit, bounds, and_assoc]
  exact parts.trans ⟨fun ⟨in_time, silent⟩ => ⟨in_time, silent⟩,
    fun held => ⟨held.in_time, held.silent⟩⟩

theorem succeeded_iff {result : ExecResult} :
    result.succeeded = true ↔ result.exitCode = 0 ∧ result.limitsHit = [] := by
  rw [ExecResult.succeeded, Bool.and_eq_true, List.isEmpty_iff]
  exact and_congr_left fun _ => ⟨of_decide_eq_true, decide_eq_true⟩

end KuWarden.Podman
