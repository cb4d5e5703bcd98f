import KuWarden.Process.Basic

/-!
Weakest preconditions for processes under interference.

`wp S I p w h Q` says that every run of `p` from world `w` with past `h` keeps `I`
whenever a call is out, whatever the environment does meanwhile, and ends in `Q`
if it ends. `wp_sound` turns that into a statement about reachable configurations.
-/
namespace Process

variable {σ W Op Lbl ε α β : Type} {Rep : Op → Type}

abbrev Assertion (σ W Op : Type) (Rep : Op → Type) (Lbl : Type) : Type :=
  σ → W → History Op Rep Lbl → Prop

def Proc.wp (S : System σ W Op Rep Lbl) (I : Assertion σ W Op Rep Lbl) :
    Proc σ Op Rep α → W → History Op Rep Lbl → (α → Assertion σ W Op Rep Lbl) → Prop
  | .done s a, w, h, Q => Q a s w h
  | .await s op k, w, h, Q =>
      ∀ s' w' h', S.Drift s w (h ++ [.call op]) s' w' h' →
        I s' w' h' ∧ ∀ r s'' w'', S.serve s' w' op r s'' w'' →
          (k r s'').wp S I w'' (h' ++ [.reply op r]) Q

theorem Proc.wp_mono {S : System σ W Op Rep Lbl} {I J : Assertion σ W Op Rep Lbl}
    {Q R : α → Assertion σ W Op Rep Lbl} (p : Proc σ Op Rep α) (w : W)
    (h : History Op Rep Lbl) (hp : p.wp S I w h Q)
    (hI : ∀ s w h, I s w h → J s w h) (hQ : ∀ a s w h, Q a s w h → R a s w h) :
    p.wp S J w h R := by
  induction p generalizing w h with
  | done s a => exact hQ a s w h hp
  | await s op k ih =>
      intro s' w' h' drift
      obtain ⟨held, next⟩ := hp s' w' h' drift
      exact ⟨hI s' w' h' held, fun r s'' w'' served =>
        ih r s'' w'' _ (next r s'' w'' served)⟩

theorem Proc.wp_bind (S : System σ W Op Rep Lbl) (I : Assertion σ W Op Rep Lbl)
    (p : Proc σ Op Rep α) (f : α → σ → Proc σ Op Rep β) (w : W) (h : History Op Rep Lbl)
    (Q : β → Assertion σ W Op Rep Lbl) :
    (p.bind f).wp S I w h Q ↔ p.wp S I w h fun a s w h => (f a s).wp S I w h Q := by
  induction p generalizing w h with
  | done s a => rfl
  | await s op k ih => simp only [Proc.bind, Proc.wp, ih]

theorem Proc.wp_and {S : System σ W Op Rep Lbl} {I J : Assertion σ W Op Rep Lbl}
    {Q R : α → Assertion σ W Op Rep Lbl} (p : Proc σ Op Rep α) (w : W)
    (h : History Op Rep Lbl) (hp : p.wp S I w h Q) (hq : p.wp S J w h R) :
    p.wp S (fun s w h => I s w h ∧ J s w h) w h fun a s w h => Q a s w h ∧ R a s w h := by
  induction p generalizing w h with
  | done s a => exact ⟨hp, hq⟩
  | await s op k ih =>
      intro s' w' h' drift
      obtain ⟨heldI, nextI⟩ := hp s' w' h' drift
      obtain ⟨heldJ, nextJ⟩ := hq s' w' h' drift
      exact ⟨⟨heldI, heldJ⟩, fun r s'' w'' served =>
        ih r s'' w'' _ (nextI r s'' w'' served) (nextJ r s'' w'' served)⟩

/-! ## Tasks -/

namespace Task

variable (S : System σ W Op Rep Lbl) (I : Assertion σ W Op Rep Lbl)

def wp (t : Task σ Op Rep ε α) (Q : Except ε α → Assertion σ W Op Rep Lbl) :
    Assertion σ W Op Rep Lbl :=
  fun s w h => (t s).wp S I w h Q

/-- The postcondition a computation owes when `f` takes over its result and an
exception passes by. -/
def andThen (f : α → Assertion σ W Op Rep Lbl) (Q : Except ε β → Assertion σ W Op Rep Lbl) :
    Except ε α → Assertion σ W Op Rep Lbl
  | .ok a => f a
  | .error e => Q (.error e)

@[simp] theorem andThen_ok (f : α → Assertion σ W Op Rep Lbl)
    (Q : Except ε β → Assertion σ W Op Rep Lbl) (a : α) :
    andThen f Q (.ok a) = f a := rfl

@[simp] theorem andThen_error (f : α → Assertion σ W Op Rep Lbl)
    (Q : Except ε β → Assertion σ W Op Rep Lbl) (e : ε) :
    andThen f Q (.error e) = Q (.error e) := rfl

variable {S I}
variable {Q R : Except ε α → Assertion σ W Op Rep Lbl} {s : σ} {w : W}
  {h : History Op Rep Lbl}

theorem wp_mono {t : Task σ Op Rep ε α} (ht : t.wp S I Q s w h)
    (hQ : ∀ r s w h, Q r s w h → R r s w h) : t.wp S I R s w h :=
  Proc.wp_mono (t s) w h ht (fun _ _ _ held => held) hQ

@[simp] theorem wp_pure (a : α) :
    (Pure.pure a : Task σ Op Rep ε α).wp S I Q s w h ↔ Q (.ok a) s w h := Iff.rfl

@[simp] theorem wp_raise (e : ε) :
    (raise e : Task σ Op Rep ε α).wp S I Q s w h ↔ Q (.error e) s w h := Iff.rfl

@[simp] theorem wp_read {Q : Except ε σ → Assertion σ W Op Rep Lbl} :
    (read : Task σ Op Rep ε σ).wp S I Q s w h ↔ Q (.ok s) s w h := Iff.rfl

@[simp] theorem wp_update {Q : Except ε Unit → Assertion σ W Op Rep Lbl} (f : σ → σ) :
    (update f : Task σ Op Rep ε Unit).wp S I Q s w h ↔ Q (.ok ()) (f s) w h := Iff.rfl

@[simp] theorem wp_ofExcept (r : Except ε α) :
    (ofExcept r : Task σ Op Rep ε α).wp S I Q s w h ↔ Q r s w h := Iff.rfl

theorem wp_call {op : Op} {Q : Except ε (Rep op) → Assertion σ W Op Rep Lbl} :
    (call op : Task σ Op Rep ε (Rep op)).wp S I Q s w h ↔
      ∀ s' w' h', S.Drift s w (h ++ [.call op]) s' w' h' →
        I s' w' h' ∧ ∀ r s'' w'', S.serve s' w' op r s'' w'' →
          Q (.ok r) s'' w'' (h' ++ [.reply op r]) := Iff.rfl

@[simp] theorem wp_bind {t : Task σ Op Rep ε α} {f : α → Task σ Op Rep ε β}
    {Q : Except ε β → Assertion σ W Op Rep Lbl} :
    (t >>= f).wp S I Q s w h ↔
      t.wp S I (andThen (fun a => (f a).wp S I Q) Q) s w h := by
  refine (Proc.wp_bind S I (t s) _ w h Q).trans ?_
  constructor <;> intro ht <;> refine Proc.wp_mono _ _ _ ht (fun _ _ _ held => held) ?_ <;>
    intro r s w h hr <;> cases r <;> exact hr

/-- Handling swaps the roles: the value passes by and `handler` owes the rest. -/
theorem wp_handle {t : Task σ Op Rep ε α} {handler : ε → Task σ Op Rep ε α} :
    (t.handle handler).wp S I Q s w h ↔
      t.wp S I (fun r => match r with
        | .ok a => Q (.ok a)
        | .error e => (handler e).wp S I Q) s w h := by
  refine (Proc.wp_bind S I (t s) _ w h Q).trans ?_
  constructor <;> intro ht <;> refine Proc.wp_mono _ _ _ ht (fun _ _ _ held => held) ?_ <;>
    intro r s w h hr <;> cases r <;> exact hr

theorem wp_attempt {t : Task σ Op Rep ε α}
    {Q : Except ε (Except ε α) → Assertion σ W Op Rep Lbl} :
    (t.attempt).wp S I Q s w h ↔ t.wp S I (fun r => Q (.ok r)) s w h :=
  Proc.wp_bind S I (t s) _ w h Q

end Task

/-! ## Soundness -/

/-- What a configuration still owes. A suspended one owes the invariant now, after
every move of the environment, and the rest after every reply. -/
def Config.Owes (S : System σ W Op Rep Lbl) (I : Assertion σ W Op Rep Lbl)
    (Q : α → Assertion σ W Op Rep Lbl) (c : Config σ W Op Rep Lbl α) : Prop :=
  match c.proc with
  | .done s a => Q a s c.world c.history
  | .await s op k => ∀ s' w' h', S.Drift s c.world c.history s' w' h' →
      I s' w' h' ∧ ∀ r s'' w'', S.serve s' w' op r s'' w'' →
        (k r s'').wp S I w'' (h' ++ [.reply op r]) Q

theorem Config.owes_launch {S : System σ W Op Rep Lbl} {I : Assertion σ W Op Rep Lbl}
    {Q : α → Assertion σ W Op Rep Lbl} {p : Proc σ Op Rep α} {w : W}
    {h : History Op Rep Lbl} (hp : p.wp S I w h Q) : (Config.launch p w h).Owes S I Q := by
  cases p with
  | done s a => exact hp
  | await s op k => exact hp

theorem System.Drift.head {S : System σ W Op Rep Lbl} {s s' s'' : σ} {w w' w'' : W}
    {h h'' : History Op Rep Lbl} {l : Lbl} (first : S.env s w l s' w')
    (rest : S.Drift s' w' (h ++ [.env l]) s'' w'' h'') : S.Drift s w h s'' w'' h'' := by
  induction rest with
  | refl => exact .step .refl first
  | step _ last ih => exact .step ih last

theorem Config.owes_step {S : System σ W Op Rep Lbl} {I : Assertion σ W Op Rep Lbl}
    {Q : α → Assertion σ W Op Rep Lbl} {c c' : Config σ W Op Rep Lbl α}
    (hc : c.Owes S I Q) (step : S.Step c c') : c'.Owes S I Q := by
  cases step with
  | env op k h moved =>
      intro s'' w'' h'' drift
      exact hc s'' w'' h'' (drift.head moved)
  | reply op k h r served =>
      exact owes_launch ((hc _ _ _ .refl).2 r _ _ served)

theorem Config.owes_reaches {S : System σ W Op Rep Lbl} {I : Assertion σ W Op Rep Lbl}
    {Q : α → Assertion σ W Op Rep Lbl} {c c' : Config σ W Op Rep Lbl α}
    (hc : c.Owes S I Q) (run : S.Reaches c c') : c'.Owes S I Q := by
  induction run with
  | refl => exact hc
  | tail _ step ih => exact owes_step ih step

theorem wp_sound {S : System σ W Op Rep Lbl} {I : Assertion σ W Op Rep Lbl}
    {Q : α → Assertion σ W Op Rep Lbl} {p : Proc σ Op Rep α} {w : W}
    {h : History Op Rep Lbl} (hp : p.wp S I w h Q) {c : Config σ W Op Rep Lbl α}
    (run : S.Reaches (.launch p w h) c) :
    match c.proc with
    | .done s a => Q a s c.world c.history
    | .await s _ _ => I s c.world c.history := by
  have owed := Config.owes_reaches (Config.owes_launch hp) run
  unfold Config.Owes at owed
  split at owed
  · exact owed
  · exact (owed _ _ _ .refl).1

/-! ## Runs of a computation that goes on -/

/-- Go on with `f` where a configuration is done. -/
def Config.andThen (c : Config σ W Op Rep Lbl α) (f : α → σ → Proc σ Op Rep β) :
    Config σ W Op Rep Lbl β :=
  match c.proc with
  | .done s a => .launch (f a s) c.world c.history
  | .await s op k => ⟨.await s op fun r s' => (k r s').bind f, c.world, c.history⟩

theorem Config.launch_world (p : Proc σ Op Rep α) (w : W) (h : History Op Rep Lbl) :
    (Config.launch p w h).world = w := by
  cases p <;> rfl

theorem Config.launch_andThen (p : Proc σ Op Rep α) (w : W) (h : History Op Rep Lbl)
    (f : α → σ → Proc σ Op Rep β) :
    (Config.launch p w h).andThen f = .launch (p.bind f) w h := by
  cases p <;> rfl

theorem System.Step.andThen {S : System σ W Op Rep Lbl} {c c' : Config σ W Op Rep Lbl α}
    (step : S.Step c c') (f : α → σ → Proc σ Op Rep β) :
    S.Step (c.andThen f) (c'.andThen f) := by
  cases step with
  | env op k h moved => exact .env op _ h moved
  | reply op k h r served =>
      rw [Config.launch_andThen]
      exact .reply op _ h r served

theorem System.Reaches.andThen {S : System σ W Op Rep Lbl} {c c' : Config σ W Op Rep Lbl α}
    (run : S.Reaches c c') (f : α → σ → Proc σ Op Rep β) :
    S.Reaches (c.andThen f) (c'.andThen f) := by
  induction run with
  | refl => exact .refl
  | tail _ step ih => exact ih.tail (System.Step.andThen step f)

/-- A run that ends carries on as a run of what follows. -/
theorem Proc.reaches_bind {S : System σ W Op Rep Lbl} {p : Proc σ Op Rep (Except ε α)}
    {f : Except ε α → σ → Proc σ Op Rep β} {w : W} {h : History Op Rep Lbl}
    {c : Config σ W Op Rep Lbl (Except ε α)} (run : S.Reaches (.launch p w h) c) {s : σ}
    {r : Except ε α} (final : c.proc = .done s r) :
    S.Reaches (.launch (p.bind f) w h) (.launch (f r s) c.world c.history) := by
  have lifted := System.Reaches.andThen run f
  rw [Config.launch_andThen, Config.andThen, final] at lifted
  exact lifted

theorem System.Drift.reaches {S : System σ W Op Rep Lbl} {s s' : σ} {w w' : W}
    {h h' : History Op Rep Lbl} (drift : S.Drift s w h s' w' h') {op : Op}
    {k : Rep op → σ → Proc σ Op Rep α} :
    S.Reaches ⟨.await s op k, w, h⟩ ⟨.await s' op k, w', h'⟩ := by
  induction drift with
  | refl => exact .refl
  | step _ moved ih => exact ih.tail (.env op k _ moved)

/-- However a process ends, there is a run of it that ends so. -/
theorem Proc.wp_reaches (S : System σ W Op Rep Lbl) (p : Proc σ Op Rep α) (w : W)
    (h : History Op Rep Lbl) : p.wp S (fun _ _ _ => True) w h fun a s' w' h' =>
      S.Reaches (.launch p w h) ⟨.done s' a, w', h'⟩ := by
  induction p generalizing w h with
  | done s a => exact .refl
  | await s op k ih =>
      intro s' w' h' drift
      refine ⟨trivial, fun r s'' w'' served => ?_⟩
      refine Proc.wp_mono _ _ _ (ih r s'' w'' _) (fun _ _ _ _ => trivial) fun a t v g rest => ?_
      exact (drift.reaches.tail (.reply op k h' r served)).trans rest

/-! ## Calls in a history -/

/-- Every call of the history was issued against a past that `G` accepts. -/
def CallsMeet (G : History Op Rep Lbl → Op → Prop) (h : History Op Rep Lbl) : Prop :=
  ∀ before op after, h = before ++ .call op :: after → G before op

theorem callsMeet_nil (G : History Op Rep Lbl → Op → Prop) : CallsMeet G [] := by
  intro before op after split
  simp at split

theorem callsMeet_append_call {G : History Op Rep Lbl → Op → Prop}
    {h : History Op Rep Lbl} {op : Op} :
    CallsMeet G (h ++ [.call op]) ↔ CallsMeet G h ∧ G h op := by
  constructor
  · intro met
    refine ⟨?_, met h op [] rfl⟩
    intro before op' after split
    exact met before op' (after ++ [.call op]) (by simp [split])
  · rintro ⟨met, last⟩ before op' after split
    rcases List.eq_nil_or_concat after with rfl | ⟨front, x, rfl⟩
    · obtain ⟨rfl, same⟩ := List.append_inj' split rfl
      cases same
      exact last
    · have : h ++ [.call op] = (before ++ .call op' :: front) ++ [x] := by simpa using split
      exact met before op' front (List.append_inj' this rfl).1

theorem callsMeet_append_other {G : History Op Rep Lbl → Op → Prop}
    {h : History Op Rep Lbl} {l : Label Op Rep Lbl} (other : ∀ op, l ≠ .call op) :
    CallsMeet G (h ++ [l]) ↔ CallsMeet G h := by
  constructor
  · intro met before op after split
    exact met before op (after ++ [l]) (by simp [split])
  · intro met before op after split
    rcases List.eq_nil_or_concat after with rfl | ⟨front, x, rfl⟩
    · obtain ⟨-, same⟩ := List.append_inj' split rfl
      exact absurd (List.cons.inj same).1 (other op)
    · have : h ++ [l] = (before ++ .call op :: front) ++ [x] := by simpa using split
      exact met before op front (List.append_inj' this rfl).1

theorem System.Drift.extends {S : System σ W Op Rep Lbl} {s s' : σ} {w w' : W}
    {h h' : History Op Rep Lbl} (drift : S.Drift s w h s' w' h') :
    ∃ moves : List Lbl, h' = h ++ moves.map .env := by
  induction drift with
  | refl => exact ⟨[], by simp⟩
  | @step _ _ _ _ _ l _ _ ih =>
      obtain ⟨moves, rfl⟩ := ih
      exact ⟨moves ++ [l], by simp⟩

theorem callsMeet_drift {S : System σ W Op Rep Lbl} {G : History Op Rep Lbl → Op → Prop}
    {s s' : σ} {w w' : W} {h h' : History Op Rep Lbl} (drift : S.Drift s w h s' w' h') :
    CallsMeet G h' ↔ CallsMeet G h := by
  induction drift with
  | refl => rfl
  | step _ _ ih => rw [callsMeet_append_other (by simp), ih]

end Process
