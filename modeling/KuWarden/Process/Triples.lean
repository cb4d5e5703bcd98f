import KuWarden.Process.Logic

/-!
Three derived judgements about a task under interference.

`ensures` is partial correctness from one configuration: what the task returns, if it
returns. `may` says that some run of it does return. `Keeps` is a frame: a predicate that
holds before the task holds whenever one of its calls is out and however it ends.
-/
namespace Process

variable {σ W Op Lbl ε α β γ : Type} {Rep : Op → Type} {S : System σ W Op Rep Lbl}

/-- The shared state as a process left it. -/
def Proc.state : Proc σ Op Rep α → σ
  | .done s _ => s
  | .await s _ _ => s

/-- The invariant of a precondition holds wherever a run stands. -/
theorem wp_invariant {P : Assertion σ W Op Rep Lbl} {p : Proc σ Op Rep α} {w : W}
    {h : History Op Rep Lbl} (hp : p.wp S P w h fun _ => P) {c : Config σ W Op Rep Lbl α}
    (run : S.Reaches (.launch p w h) c) : P c.proc.state c.world c.history := by
  have sound := wp_sound hp run
  cases at_ : c.proc with
  | done s a => rw [at_] at sound; exact sound
  | await s op k => rw [at_] at sound; exact sound

namespace Task

section Ensures

variable (S) in
def ensures (t : Task σ Op Rep ε α) (Q : α → Assertion σ W Op Rep Lbl) :
    Assertion σ W Op Rep Lbl :=
  t.wp S (fun _ _ _ => True) fun r s w h => ∀ a, r = .ok a → Q a s w h

variable {s : σ} {w : W} {h : History Op Rep Lbl} {Q R : α → Assertion σ W Op Rep Lbl}

theorem ensures_pure {a : α} (held : Q a s w h) :
    (Pure.pure a : Task σ Op Rep ε α).ensures S Q s w h := by
  intro b same
  cases same
  exact held

theorem ensures_raise {e : ε} : (raise e : Task σ Op Rep ε α).ensures S Q s w h := by
  intro a absurd
  cases absurd

theorem ensures_mono {t : Task σ Op Rep ε α} (ht : t.ensures S Q s w h)
    (hQ : ∀ a s w h, Q a s w h → R a s w h) : t.ensures S R s w h :=
  wp_mono ht fun _ s w h held a same => hQ a s w h (held a same)

theorem ensures_bind {t : Task σ Op Rep ε α} {f : α → Task σ Op Rep ε β}
    {Q : β → Assertion σ W Op Rep Lbl} (ht : t.ensures S R s w h)
    (hf : ∀ a s' w' h', R a s' w' h' → (f a).ensures S Q s' w' h') :
    (t >>= f).ensures S Q s w h := by
  refine wp_bind.mpr (wp_mono ht ?_)
  intro r s' w' h' held
  cases r with
  | ok a => exact hf a s' w' h' (held a rfl)
  | error e => intro b absurd; cases absurd

theorem ensures_update {f : σ → σ} {Q : Unit → Assertion σ W Op Rep Lbl}
    (held : Q () (f s) w h) : (update f : Task σ Op Rep ε Unit).ensures S Q s w h :=
  fun _ _ => held

theorem ensures_update_bind {f : σ → σ} {t : Unit → Task σ Op Rep ε α} :
    (update f >>= t).ensures S Q s w h ↔ (t ()).ensures S Q (f s) w h := by
  unfold ensures
  rw [wp_bind, wp_update, andThen_ok]

theorem ensures_read_bind {t : σ → Task σ Op Rep ε α} :
    (read >>= t).ensures S Q s w h ↔ (t s).ensures S Q s w h := by
  unfold ensures
  rw [wp_bind, wp_read, andThen_ok]

theorem ensures_ofExcept_bind {r : Except ε β} {t : β → Task σ Op Rep ε α} :
    (ofExcept r >>= t).ensures S Q s w h ↔ ∀ b, r = .ok b → (t b).ensures S Q s w h := by
  unfold ensures
  rw [wp_bind, wp_ofExcept]
  cases r with
  | ok b => simp
  | error e => simp

theorem ensures_call {op : Op} {Q : Rep op → Assertion σ W Op Rep Lbl}
    (served : ∀ s' w' h' r s'' w'', S.Drift s w (h ++ [.call op]) s' w' h' →
      S.serve s' w' op r s'' w'' → Q r s'' w'' (h' ++ [.reply op r])) :
    (call op : Task σ Op Rep ε (Rep op)).ensures S Q s w h := by
  refine wp_call.mpr ?_
  intro s' w' h' drift
  refine ⟨trivial, ?_⟩
  intro r s'' w'' answered a same
  cases same
  exact served s' w' h' r s'' w'' drift answered

theorem ensures_attempt {t : Task σ Op Rep ε α}
    {Q : Except ε α → Assertion σ W Op Rep Lbl}
    (ht : t.wp S (fun _ _ _ => True) Q s w h) : t.attempt.ensures S Q s w h := by
  refine wp_attempt.mpr (wp_mono ht ?_)
  intro r s w h held a same
  cases same
  exact held

theorem ensures_sound {t : Task σ Op Rep ε α} (ht : t.ensures S Q s w h)
    {c : Config σ W Op Rep Lbl (Except ε α)} (run : S.Reaches (.launch (t s) w h) c)
    {s' : σ} {a : α} (final : c.proc = .done s' (.ok a)) : Q a s' c.world c.history := by
  have sound := wp_sound ht run
  rw [final] at sound
  exact sound a rfl

end Ensures

section May

variable (S) in
def may (t : Task σ Op Rep ε α) (Q : α → Assertion σ W Op Rep Lbl) :
    Assertion σ W Op Rep Lbl := fun s w h =>
  ∃ c s' a, S.Reaches (.launch (t s) w h) c ∧ c.proc = .done s' (.ok a) ∧
    Q a s' c.world c.history

variable {s : σ} {w : W} {h : History Op Rep Lbl} {Q R : α → Assertion σ W Op Rep Lbl}

theorem may_pure {a : α} (held : Q a s w h) :
    (Pure.pure a : Task σ Op Rep ε α).may S Q s w h :=
  ⟨_, s, a, .refl, rfl, held⟩

theorem may_update_bind {f : σ → σ} {t : Unit → Task σ Op Rep ε α}
    (ht : (t ()).may S Q (f s) w h) : (update f >>= t).may S Q s w h := ht

theorem may_read_bind {t : σ → Task σ Op Rep ε α} (ht : (t s).may S Q s w h) :
    (read >>= t).may S Q s w h := ht

theorem may_asked {op : Op} {r : Rep op} {s' : σ} {w' : W}
    {Q : Rep op → Assertion σ W Op Rep Lbl} (served : S.serve s w op r s' w')
    (held : Q r s' w' (h ++ [.call op] ++ [.reply op r])) :
    (call op : Task σ Op Rep ε (Rep op)).may S Q s w h :=
  ⟨_, s', r, .single (.reply op _ _ r served), rfl, held⟩

theorem may_call {op : Op} {r : Rep op} {s' : σ} {w' : W}
    {Q : Rep op → Assertion σ W Op Rep Lbl} (served : S.serve s w op r s' w')
    (held : ∀ h, Q r s' w' h) : (call op : Task σ Op Rep ε (Rep op)).may S Q s w h :=
  may_asked served (held _)

theorem may_bind {t : Task σ Op Rep ε α} {f : α → Task σ Op Rep ε β}
    {Q : β → Assertion σ W Op Rep Lbl} (ht : t.may S R s w h)
    (hf : ∀ a s' w' h', R a s' w' h' → (f a).may S Q s' w' h') :
    (t >>= f).may S Q s w h := by
  obtain ⟨c, s', a, run, final, held⟩ := ht
  obtain ⟨d, s'', b, more, done, held'⟩ := hf a s' c.world c.history held
  exact ⟨d, s'', b, (Proc.reaches_bind run final).trans more, done, held'⟩

end May


section Keeps

variable {P : Assertion σ W Op Rep Lbl}

variable (S P) in
def Keeps (t : Task σ Op Rep ε α) : Prop :=
  ∀ s w h, P s w h → t.wp S P (fun _ => P) s w h

theorem keeps_pure (a : α) : (Pure.pure a : Task σ Op Rep ε α).Keeps S P :=
  fun _ _ _ held => held

theorem keeps_raise (e : ε) : (raise e : Task σ Op Rep ε α).Keeps S P :=
  fun _ _ _ held => held

theorem keeps_ofExcept (r : Except ε α) : (ofExcept r : Task σ Op Rep ε α).Keeps S P :=
  fun _ _ _ held => held

theorem keeps_read : (read : Task σ Op Rep ε σ).Keeps S P :=
  fun _ _ _ held => held

theorem keeps_update {f : σ → σ} (hf : ∀ s w h, P s w h → P (f s) w h) :
    (update f : Task σ Op Rep ε Unit).Keeps S P :=
  hf

theorem keeps_bind {t : Task σ Op Rep ε α} {f : α → Task σ Op Rep ε β}
    (ht : t.Keeps S P) (hf : ∀ a, (f a).Keeps S P) : (t >>= f).Keeps S P := by
  intro s w h held
  refine wp_bind.mpr (wp_mono (ht s w h held) ?_)
  intro r s' w' h' held'
  cases r with
  | ok a => exact hf a s' w' h' held'
  | error e => exact held'

theorem Keeps.and {P' : Assertion σ W Op Rep Lbl} {t : Task σ Op Rep ε α} (ht : t.Keeps S P)
    (ht' : t.Keeps S P') : t.Keeps S fun s w h => P s w h ∧ P' s w h :=
  fun s w h held => Proc.wp_and _ _ _ (ht s w h held.1) (ht' s w h held.2)

/-- Two tasks that reach a predicate together, and a third that keeps it. -/
theorem wp_pair {t : Task σ Op Rep ε α} {f : α → Task σ Op Rep ε β}
    {g : β → Task σ Op Rep ε γ} {s : σ} {w : W} {h : History Op Rep Lbl}
    (both : (t >>= f).wp S P (fun _ => P) s w h) (hg : ∀ b, (g b).Keeps S P) :
    (t >>= fun a => f a >>= g).wp S P (fun _ => P) s w h := by
  rw [← bind_assoc]
  refine wp_bind.mpr (wp_mono both ?_)
  intro r s' w' h' held
  cases r with
  | ok b => exact hg b s' w' h' held
  | error e => exact held

theorem keeps_pair {t : Task σ Op Rep ε α} {f : α → Task σ Op Rep ε β}
    {g : β → Task σ Op Rep ε γ} (both : (t >>= f).Keeps S P) (hg : ∀ b, (g b).Keeps S P) :
    (t >>= fun a => f a >>= g).Keeps S P :=
  fun s w h held => wp_pair (both s w h held) hg

theorem keeps_attempt {t : Task σ Op Rep ε α} (ht : t.Keeps S P) : t.attempt.Keeps S P :=
  fun s w h held => wp_attempt.mpr (ht s w h held)

theorem keeps_handle {t : Task σ Op Rep ε α} {handler : ε → Task σ Op Rep ε α}
    (ht : t.Keeps S P) (hh : ∀ e, (handler e).Keeps S P) : (t.handle handler).Keeps S P := by
  intro s w h held
  refine wp_handle.mpr (wp_mono (ht s w h held) ?_)
  intro r s' w' h' held'
  cases r with
  | ok a => exact held'
  | error e => exact hh e s' w' h' held'

theorem keeps_drift (moved : ∀ {s w h l s' w'}, P s w h → S.env s w l s' w' →
      P s' w' (h ++ [.env l])) {s s' : σ} {w w' : W} {h h' : History Op Rep Lbl}
    (held : P s w h) (drift : S.Drift s w h s' w' h') : P s' w' h' := by
  induction drift with
  | refl => exact held
  | step _ last ih => exact moved ih last

theorem keeps_call {op : Op} (called : ∀ {s w h}, P s w h → P s w (h ++ [.call op]))
    (moved : ∀ {s w h l s' w'}, P s w h → S.env s w l s' w' → P s' w' (h ++ [.env l]))
    (served : ∀ {s w h r s' w'}, P s w h → S.serve s w op r s' w' →
      P s' w' (h ++ [.reply op r])) :
    (call op : Task σ Op Rep ε (Rep op)).Keeps S P := by
  intro s w h held
  refine wp_call.mpr ?_
  intro s' w' h' drift
  have held' : P s' w' h' := keeps_drift moved (called held) drift
  exact ⟨held', fun r s'' w'' answered => served held' answered⟩

/-- Past a task that keeps a stronger predicate than what follows it owes. -/
theorem wp_past {P' : Assertion σ W Op Rep Lbl} {t : Task σ Op Rep ε α}
    {f : α → Task σ Op Rep ε β} {s : σ} {w : W} {h : History Op Rep Lbl}
    (ht : t.Keeps S P) (weaken : ∀ s w h, P s w h → P' s w h) (held : P s w h)
    (hf : ∀ a s w h, P s w h → (f a).wp S P' (fun _ => P') s w h) :
    (t >>= f).wp S P' (fun _ => P') s w h := by
  refine wp_bind.mpr (Proc.wp_mono _ _ _ (ht s w h held) weaken ?_)
  intro r s' w' h' held'
  cases r with
  | ok a => exact hf a s' w' h' held'
  | error e => exact weaken s' w' h' held'

theorem keeps_past {past : History Op Rep Lbl} (t : Task σ Op Rep ε α) :
    t.Keeps S fun _ _ h => past <+: h := by
  intro s w h held
  suffices all : ∀ (p : Proc σ Op Rep (Except ε α)) (w : W) (h : History Op Rep Lbl),
      past <+: h → p.wp S (fun _ _ h => past <+: h) w h fun _ _ _ h => past <+: h from
    all (t s) w h held
  intro p
  induction p with
  | done s a => exact fun _ _ held => held
  | await s op k ih =>
      intro w h held s' w' h' drift
      obtain ⟨moves, rfl⟩ := drift.extends
      have grown : past <+: h ++ [.call op] ++ moves.map .env := by
        rw [List.append_assoc]
        exact held.trans (List.prefix_append _ _)
      exact ⟨grown, fun r s'' w'' _ =>
        ih r s'' w'' _ (grown.trans (List.prefix_append _ _))⟩

theorem ensures_trivial (t : Task σ Op Rep ε α) {s : σ} {w : W} {h : History Op Rep Lbl} :
    t.ensures S (fun _ _ _ _ => True) s w h :=
  Proc.wp_mono _ _ _ (keeps_past t s w h List.prefix_rfl) (fun _ _ _ _ => trivial)
    fun _ _ _ _ _ _ _ => trivial

/-- Past a task of which nothing is needed. -/
theorem ensures_then {t : Task σ Op Rep ε α} {f : α → Task σ Op Rep ε β}
    {Q : β → Assertion σ W Op Rep Lbl} {s : σ} {w : W} {h : History Op Rep Lbl}
    (hf : ∀ a s w h, (f a).ensures S Q s w h) : (t >>= f).ensures S Q s w h :=
  ensures_bind (ensures_trivial t) fun a s w h _ => hf a s w h

/-- What a kept predicate and partial correctness say together. -/
theorem Keeps.wp_with {t : Task σ Op Rep ε α} {Q : α → Assertion σ W Op Rep Lbl}
    {s : σ} {w : W} {h : History Op Rep Lbl} (ht : t.Keeps S P) (held : P s w h)
    (hQ : t.ensures S Q s w h) :
    t.wp S P (fun r s w h => P s w h ∧ ∀ a, r = .ok a → Q a s w h) s w h :=
  Proc.wp_mono _ _ _ (Proc.wp_and _ _ _ (ht s w h held) hQ) (fun _ _ _ both => both.1)
    fun _ _ _ _ both => both

theorem Keeps.ensures {t : Task σ Op Rep ε α} {s : σ} {w : W} {h : History Op Rep Lbl}
    (ht : t.Keeps S P) (held : P s w h) : t.ensures S (fun _ => P) s w h :=
  Proc.wp_mono _ _ _ (ht s w h held) (fun _ _ _ _ => trivial) fun _ _ _ _ held _ _ => held

theorem ensures_past {t : Task σ Op Rep ε α} {Q : α → Assertion σ W Op Rep Lbl}
    {s : σ} {w : W} {h : History Op Rep Lbl} (hQ : t.ensures S Q s w h) :
    t.ensures S (fun a s' w' h' => Q a s' w' h' ∧ h <+: h') s w h :=
  Proc.wp_mono _ _ _ ((keeps_past t).wp_with List.prefix_rfl hQ) (fun _ _ _ _ => trivial)
    fun _ _ _ _ both a same => ⟨both.2 a same, both.1⟩

/-- What a task returns with, a run of it returns with. -/
theorem ensures_reaches {t : Task σ Op Rep ε α} {Q : α → Assertion σ W Op Rep Lbl}
    {s : σ} {w : W} {h : History Op Rep Lbl} (hQ : t.ensures S Q s w h) :
    t.ensures S (fun a s' w' h' => Q a s' w' h' ∧
      S.Reaches (.launch (t s) w h) ⟨.done s' (.ok a), w', h'⟩) s w h := by
  refine Proc.wp_mono _ _ _ (Proc.wp_and _ _ _ hQ (Proc.wp_reaches S (t s) w h))
    (fun _ _ _ _ => trivial) ?_
  rintro r s' w' h' ⟨held, run⟩ a rfl
  exact ⟨held a rfl, run⟩

end Keeps

section Throws

variable {E : ε → Assertion σ W Op Rep Lbl}

variable (S E) in
/-- What the task raises, if it raises anything, finds `E`. -/
def Throws (t : Task σ Op Rep ε α) : Prop :=
  ∀ s w h, t.wp S (fun _ _ _ => True) (fun r s w h => ∀ e, r = .error e → E e s w h) s w h

theorem throws_pure (a : α) : (Pure.pure a : Task σ Op Rep ε α).Throws S E := by
  intro s w h e absurd
  cases absurd

theorem throws_raise {e : ε} (as : ∀ s w h, E e s w h) :
    (raise e : Task σ Op Rep ε α).Throws S E := by
  intro s w h e' same
  cases same
  exact as s w h

theorem throws_read : (read : Task σ Op Rep ε σ).Throws S E := by
  intro s w h e absurd
  cases absurd

theorem throws_update (f : σ → σ) : (update f : Task σ Op Rep ε Unit).Throws S E := by
  intro s w h e absurd
  cases absurd

theorem throws_bind {t : Task σ Op Rep ε α} {f : α → Task σ Op Rep ε β} (ht : t.Throws S E)
    (hf : ∀ a, (f a).Throws S E) : (t >>= f).Throws S E := by
  intro s w h
  refine wp_bind.mpr (wp_mono (ht s w h) ?_)
  intro r s' w' h' held
  cases r with
  | ok a => exact hf a s' w' h'
  | error e =>
      intro e' same
      cases same
      exact held e rfl

/-- Past a result of which something is known. -/
theorem throws_ofExcept_bind {r : Except ε α} {f : α → Task σ Op Rep ε β}
    (as : ∀ e, r = .error e → ∀ s w h, E e s w h) (hf : ∀ a, r = .ok a → (f a).Throws S E) :
    (ofExcept r >>= f).Throws S E := by
  cases r with
  | ok a => exact hf a rfl
  | error e => exact throws_raise (as e rfl)

/-- A handler that raises nothing lets nothing through. -/
theorem throws_handle {t : Task σ Op Rep ε α} {handler : ε → Task σ Op Rep ε α}
    (hh : ∀ e, (handler e).Throws S E) : (t.handle handler).Throws S E := by
  intro s w h
  refine wp_handle.mpr (wp_mono (ensures_trivial t) ?_)
  intro r s' w' h' _
  cases r with
  | ok a => intro e absurd; cases absurd
  | error e => exact hh e s' w' h'

end Throws

end Task
end Process
