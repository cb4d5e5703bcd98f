import KuWarden.Process.Histories

/-!
Where a run stands that waits for an answer.
-/
namespace Process

variable {σ W Op Lbl α : Type} {Rep : Op → Type} {S : System σ W Op Rep Lbl}

/-- A configuration that waits for a call. -/
def Config.Awaits (c : Config σ W Op Rep Lbl α) (op : Op) : Prop :=
  ∃ s k, c.proc = .await s op k

theorem Config.launch_grows (p : Proc σ Op Rep α) (w : W) (h : History Op Rep Lbl) :
    h <+: (Config.launch p w h).history := by
  cases p with
  | done s a => exact List.prefix_rfl
  | await s op k => exact List.prefix_append _ _

/-- The call that a configuration waits for has gone out since the run began. -/
theorem System.Reaches.called {p : Proc σ Op Rep α} {w : W} {h : History Op Rep Lbl}
    {c : Config σ W Op Rep Lbl α} {op : Op} (run : S.Reaches (.launch p w h) c)
    (awaits : c.Awaits op) : ∃ more, c.history = h ++ more ∧ .call op ∈ more := by
  obtain ⟨s, k, at_⟩ := awaits
  induction run generalizing s op with
  | refl =>
      cases p with
      | done s' a => cases at_
      | await s' op' k' =>
          cases at_
          exact ⟨_, rfl, List.mem_cons_self⟩
  | @tail c₁ c₂ first step ih =>
      cases step with
      | @env _ _ _ _ l op' k' h' moved =>
          cases at_
          obtain ⟨more, grown, called⟩ := ih _ _ rfl
          exact ⟨more ++ [.env l], by simp [show h' = h ++ more from grown],
            List.mem_append_left _ called⟩
      | @reply s' s'' w' w'' op' k' h' r served =>
          obtain ⟨more, grown⟩ := (Config.launch_grows p w h).trans
            (System.Reaches.grows first)
          cases next : k' r s'' with
          | done s₂ a =>
              rw [next] at at_
              cases at_
          | await s₂ op₂ k₂ =>
              rw [next] at at_
              cases at_
              refine ⟨more ++ [.reply op' r, .call op], ?_, by simp⟩
              simp [Config.launch, ← show h ++ more = h' from grown]

end Process
