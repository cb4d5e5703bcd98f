import KuWarden.Process.Basic

/-!
A history is honest: every reply and every move of the environment it records took
place.
-/
namespace Process

variable {σ W Op Lbl α : Type} {Rep : Op → Type}

/-- A label that its system can account for. -/
def System.Accounts (S : System σ W Op Rep Lbl) : Label Op Rep Lbl → Prop
  | .call _ => True
  | .reply op r => ∃ s w s' w', S.serve s w op r s' w'
  | .env l => ∃ s w s' w', S.env s w l s' w'

def System.Honest (S : System σ W Op Rep Lbl) (h : History Op Rep Lbl) : Prop :=
  ∀ l ∈ h, S.Accounts l

variable {S : System σ W Op Rep Lbl}

theorem System.honest_nil : S.Honest [] := by
  intro l mem
  cases mem

theorem System.honest_append {h h' : History Op Rep Lbl} :
    S.Honest (h ++ h') ↔ S.Honest h ∧ S.Honest h' :=
  List.forall_mem_append

theorem System.honest_concat {h : History Op Rep Lbl} {l : Label Op Rep Lbl}
    (past : S.Honest h) (last : S.Accounts l) : S.Honest (h ++ [l]) :=
  honest_append.mpr ⟨past, by simpa [System.Honest] using last⟩

theorem System.honest_launch {p : Proc σ Op Rep α} {w : W} {h : History Op Rep Lbl}
    (past : S.Honest h) : S.Honest (Config.launch p w h).history := by
  cases p with
  | done s a => exact past
  | await s op k => exact honest_concat past trivial

theorem System.Step.honest {c c' : Config σ W Op Rep Lbl α} (step : S.Step c c')
    (past : S.Honest c.history) : S.Honest c'.history := by
  cases step with
  | env op k h moved => exact honest_concat past ⟨_, _, _, _, moved⟩
  | reply op k h r served => exact honest_launch (honest_concat past ⟨_, _, _, _, served⟩)

theorem System.Reaches.honest {c c' : Config σ W Op Rep Lbl α} (run : S.Reaches c c')
    (past : S.Honest c.history) : S.Honest c'.history := by
  induction run with
  | refl => exact past
  | tail _ step ih => exact step.honest ih

/-- A history only grows. -/
theorem System.Reaches.grows {c c' : Config σ W Op Rep Lbl α} (run : S.Reaches c c') :
    c.history <+: c'.history := by
  induction run with
  | refl => exact List.prefix_rfl
  | @tail c₁ c₂ _ step ih =>
      refine ih.trans ?_
      cases step with
      | env op k h moved => exact List.prefix_append _ _
      | @reply s s' w w' op k h r served =>
          have grown : h <+: h ++ [.reply op r] := List.prefix_append _ _
          refine grown.trans ?_
          cases k r s' with
          | done s a => exact List.prefix_rfl
          | await s op k => exact List.prefix_append _ _

/-! ## Replies follow their calls -/

/-- Every reply stands after the call it answers. -/
def Paired (h : History Op Rep Lbl) : Prop :=
  ∀ op r, .reply op r ∈ h → ∃ before after, h = before ++ .call op :: after ∧ .reply op r ∈ after

theorem paired_nil : Paired ([] : History Op Rep Lbl) := by
  intro op r mem
  cases mem

theorem Paired.concat {h : History Op Rep Lbl} {l : Label Op Rep Lbl} (paired : Paired h)
    (called : ∀ op r, l = .reply op r → .call op ∈ h) : Paired (h ++ [l]) := by
  intro op r mem
  rcases List.mem_append.mp mem with mem | mem
  · obtain ⟨before, after, rfl, replied⟩ := paired op r mem
    exact ⟨before, after ++ [l], by simp, List.mem_append_left _ replied⟩
  · have last := List.mem_singleton.mp mem
    obtain ⟨before, after, rfl⟩ := List.append_of_mem (called op r last.symm)
    exact ⟨before, after ++ [l], by simp,
      List.mem_append_right _ (last ▸ List.mem_cons_self)⟩

/-- Replies are paired, and the call that is out is on record. -/
structure Config.Pairs (c : Config σ W Op Rep Lbl α) : Prop where
  past : Paired c.history
  out : ∀ s op k, c.proc = .await s op k → .call op ∈ c.history

theorem Config.pairs_launch {p : Proc σ Op Rep α} {w : W} {h : History Op Rep Lbl}
    (past : Paired h) : (Config.launch p w h).Pairs := by
  cases p with
  | done s a => exact ⟨past, fun _ _ _ absurd => by cases absurd⟩
  | await s op k =>
      refine ⟨past.concat (by simp), fun _ _ _ same => ?_⟩
      cases same
      exact List.mem_append_right _ List.mem_cons_self

theorem System.Step.pairs {c c' : Config σ W Op Rep Lbl α} (step : S.Step c c')
    (pairs : c.Pairs) : c'.Pairs := by
  cases step with
  | env op k h moved =>
      refine ⟨pairs.past.concat (by simp), fun _ _ _ same => ?_⟩
      cases same
      exact List.mem_append_left _ (pairs.out _ _ _ rfl)
  | reply op k h r served =>
      refine Config.pairs_launch (pairs.past.concat fun op' r' same => ?_)
      cases same
      exact pairs.out _ _ _ rfl

theorem System.Reaches.pairs {c c' : Config σ W Op Rep Lbl α} (run : S.Reaches c c')
    (pairs : c.Pairs) : c'.Pairs := by
  induction run with
  | refl => exact pairs
  | tail _ step ih => exact step.pairs ih

end Process
