import KuWarden.Process.Logic

/-!
Processes that share a world, each proved on its own.

What one of them does is a move of the environment to the others: a crowd keeps what each of
its processes was proved to keep under such moves.
-/
namespace Process

variable {ι σ W Op Lbl α : Type} {Rep : Op → Type}

/-- A process owes what it was proved to, and has the call it waits for on record. -/
def Owing (S : System σ W Op Rep Lbl) (I : ι → Assertion σ W Op Rep Lbl)
    (Q : ι → α → Assertion σ W Op Rep Lbl) (w : W) (m : ι × Proc σ Op Rep α) : Prop :=
  ∃ h, Config.Owes S (I m.1) (Q m.1) ⟨m.2, w, h⟩ ∧
    ∀ s op k, m.2 = .await s op k → .call op ∈ h

variable {S : System σ W Op Rep Lbl} {I : ι → Assertion σ W Op Rep Lbl}
  {Q : ι → α → Assertion σ W Op Rep Lbl} {w w' : W} {i : ι}

namespace Owing

theorem of_wp {p : Proc σ Op Rep α} {h : History Op Rep Lbl} (hp : p.wp S (I i) w h (Q i)) :
    Owing S I Q w (i, p) := by
  refine ⟨(Config.launch p w h).history, ?_, ?_⟩
  · have owes := Config.owes_launch hp
    cases p <;> exact owes
  · rintro s op k rfl
    simp [Config.launch]

/-- Another process has moved. What a process that is done left must survive that. -/
theorem env {m : ι × Proc σ Op Rep α} (owing : Owing S I Q w m)
    (moved : ∀ s, ∃ l, S.env s w l s w')
    (stable : ∀ i a s h, Q i a s w h → Q i a s w' h) : Owing S I Q w' m := by
  obtain ⟨i, p⟩ := m
  obtain ⟨h, owes, asked⟩ := owing
  cases p with
  | done s a => exact ⟨h, stable i a s h owes, asked⟩
  | await s op k =>
      obtain ⟨l, move⟩ := moved s
      refine ⟨h ++ [.env l], Config.owes_step owes (.env op k h move), ?_⟩
      rintro s' op' k' same
      exact List.mem_append_left _ (asked s' op' k' same)

theorem reply {s s' : σ} {op : Op} {k : Rep op → σ → Proc σ Op Rep α} {r : Rep op}
    (owing : Owing S I Q w (i, .await s op k)) (served : S.serve s w op r s' w') :
    Owing S I Q w' (i, k r s') := by
  obtain ⟨h, owes, -⟩ := owing
  exact of_wp ((owes s w h .refl).2 r s' w' served)

theorem asks {s : σ} {op : Op} {k : Rep op → σ → Proc σ Op Rep α}
    (owing : Owing S I Q w (i, .await s op k)) : ∃ h, I i s w h ∧ .call op ∈ h := by
  obtain ⟨h, owes, asked⟩ := owing
  exact ⟨h, (owes s w h .refl).1, asked s op k rfl⟩

theorem done {s : σ} {a : α} (owing : Owing S I Q w (i, .done s a)) : ∃ h, Q i a s w h := by
  obtain ⟨h, owes, -⟩ := owing
  exact ⟨h, owes⟩

/-- The process at `j` takes an answer, beside the others. -/
theorem each_set {members : List (ι × Proc σ Op Rep α)} {j : Nat} {s s' : σ} {op : Op}
    {k : Rep op → σ → Proc σ Op Rep α} {r : Rep op}
    (each : ∀ m ∈ members, Owing S I Q w m) (found : members[j]? = some (i, .await s op k))
    (served : S.serve s w op r s' w') (moved : ∀ s, ∃ l, S.env s w l s w')
    (stable : ∀ i a s h, Q i a s w h → Q i a s w' h) :
    ∀ m ∈ members.set j (i, k r s'), Owing S I Q w' m := by
  intro m mem
  rcases List.mem_or_eq_of_mem_set mem with old | rfl
  · exact (each m old).env moved stable
  · exact (each _ (List.mem_of_getElem? found)).reply served

end Owing
end Process
