import KuWarden.Adapters.SingleFlight

/-!
What callers that share a fetch are given.

The caller that started a fetch owns its task, and a request to cancel the caller goes on to
the task. Whoever else waits for it is told that it was cancelled.
-/
namespace KuWarden.TreeCache

open Process Python

variable {loop : Loop} {caller : Caller} {i j t : Nat} {e : Event}

/-- What is owed to a caller that nobody asked to cancel: the outcome of a fetch of what it
asked for, or one that runs and that nobody asked to cancel either. -/
def Served (loop : Loop) (i : Nat) (caller : Caller) : Prop :=
  match caller.slot with
  | .finished r => r ≠ .error .cancelled ∧ Fetched loop.globals (key caller.asked) r
  | .running op _ => ∃ fetch, loop.globals.fetches[op.task]? = some fetch ∧
      key fetch.asked = key caller.asked ∧ fetch.cancelling = false ∧
      ∀ r, fetch.outcome = some r → ∃ told, (step loop (.resume i)).callers[i]? = some told ∧
        told.slot = .finished r

def AllServed (loop : Loop) : Prop :=
  ∀ i caller, loop.callers[i]? = some caller → caller.cancelled = false → Served loop i caller

/-- No caller that nobody asked to cancel waits for a fetch that was asked to cancel, or comes
to. -/
def Spares (loop : Loop) : Event → Prop
  | .call asked => ∀ t fetch, loop.globals.trees.get? (key asked) = none →
      loop.globals.inflight.get? (key asked) = some t →
      loop.globals.fetches[t]? = some fetch → fetch.cancelling = true →
      ∃ r, fetch.outcome = some r ∧ r ≠ .error .cancelled
  | .cancel i => ∀ t caller k, Owns loop.callers i t → loop.globals.outcome t = none →
      caller ∈ loop.callers → caller.slot = .running (.shield t) k → caller.cancelled = true
  | _ => True

/-! ## A step that spares the others -/

/-- Nothing was cancelled that a caller waits for, or was told of. -/
structure Free (g : Globals) (slot : Suspended) : Prop where
  running : ∀ op k (fetch : Fetch), slot = .running op k → g.fetches[op.task]? = some fetch →
    fetch.cancelling = false
  told : slot ≠ .finished (.error .cancelled)

def Unharmed (loop : Loop) : Prop :=
  ∀ (j : Nat) (caller : Caller), loop.callers[j]? = some caller → caller.cancelled = false →
    Free loop.globals caller.slot

/-- A caller that was not asked to cancel is thrown nothing. -/
theorem Sound.calm (sound : Sound loop) (mem : caller ∈ loop.callers)
    (spared : caller.cancelled = false) : caller.thrown = false := by
  by_contra raised
  have asked_to := (sound.thrown caller mem (by simpa using raised)).1
  cases spared.symm.trans asked_to

/-- The await of a caller takes the outcome of its fetch, once there is one. -/
theorem resume_told {r : Except Raised RepoTree} {op : CacheOp}
    {k : Except Raised RepoTree → Globals → Proc Globals CacheOp CacheRep _} (sound : Sound loop)
    (found : loop.callers[i]? = some caller) (spared : caller.cancelled = false)
    (waits : caller.slot = .running op k) (ended : loop.globals.outcome op.task = some r) :
    ∃ told, (step loop (.resume i)).callers[i]? = some told ∧ told.slot = .finished r := by
  obtain ⟨asked, cancelled, thrown, slot⟩ := caller
  cases waits
  have mem := List.mem_of_getElem? found
  have calm : thrown = false := sound.calm mem spared
  have given : answer loop.globals ⟨asked, cancelled, thrown, .running op k⟩ op = some r := by
    simp [answer, calm, ended]
  have stands : Stands loop.globals (key asked) cancelled (.running op k) := sound.stands _ mem
  have lt := (List.getElem?_eq_some_iff.mp found).1
  simp only [step, found, given]
  refine ⟨_, List.getElem?_set_self lt, ?_⟩
  cases stands with
  | owns =>
      rw [ofProc_keep]
      cases r <;> rfl
  | waits => rfl

theorem Unharmed.served (unharmed : Unharmed loop) (sound : Sound loop) : AllServed loop := by
  intro i caller found spared
  obtain ⟨running, told⟩ := unharmed i caller found spared
  have stands := sound.stands caller (List.mem_of_getElem? found)
  unfold Served
  cases at_ : caller.slot with
  | finished r =>
      rw [at_] at stands told
      cases stands with
      | told fetched => exact ⟨fun is => told (congrArg _ is), fetched⟩
      | thrown asked_to => cases spared.symm.trans asked_to
  | running op k =>
      obtain ⟨fetch, there, same⟩ : ∃ fetch, loop.globals.fetches[op.task]? = some fetch ∧
          key fetch.asked = key caller.asked := by
        rw [at_] at stands
        cases stands with
        | owns there same => exact ⟨_, there, same⟩
        | waits there same => exact ⟨_, there, same⟩
      refine ⟨fetch, there, same, running op k fetch at_ there, fun r ended => ?_⟩
      exact resume_told sound found spared at_ (outcome_eq_some.mpr ⟨fetch, there, ended⟩)

theorem not_cancelling {fetch : Fetch} {r : Except Raised RepoTree} (sound : Sound loop)
    (found : loop.globals.fetches[t]? = some fetch) (calm : fetch.cancelling = false)
    (ended : loop.globals.outcome t = some r) : r ≠ .error .cancelled := by
  rintro rfl
  have ceased : fetch.outcome = some (.error .cancelled) := by
    simpa [Globals.outcome, found] using ended
  cases calm.symm.trans (sound.honest fetch (List.mem_of_getElem? found) ceased)

/-- A call that joins no fetch that was asked to cancel. -/
theorem called_unharmed {asked : Asked} (sound : Sound loop)
    (spared : Spares loop (.call asked)) :
    Free (Slot.ofProc (cached asked loop.globals)).1
      (Slot.ofProc (cached asked loop.globals)).2 := by
  rw [ofProc_cached]
  cases cached : loop.globals.trees.get? (key asked) with
  | some tree => exact ⟨by simp, by simp⟩
  | none =>
      dsimp only
      cases flying : loop.globals.inflight.get? (key asked) with
      | none =>
          refine ⟨?_, by simp [ofProc_started]⟩
          intro op k fetch at_ found
          rw [ofProc_started] at at_ found
          cases at_
          have is : Fetch.mk asked false none = fetch := by simpa [CacheOp.task] using found
          rw [← is]
      | some t =>
          dsimp only
          rw [ofProc_joined]
          obtain ⟨⟨fetch, found, same⟩, -⟩ :=
            sound.inflight _ _ (OrderedDict.mem_of_get? flying)
          have harmless := spared t fetch cached flying found
          cases ended : loop.globals.outcome t with
          | none =>
              refine ⟨?_, by simp⟩
              intro op k fetch' at_ found'
              cases at_
              cases found.symm.trans found'
              by_contra asked_to
              obtain ⟨r, ceased, -⟩ := harmless (by simpa using asked_to)
              have never : fetch.outcome = none := by
                simpa [Globals.outcome, found] using ended
              cases never.symm.trans ceased
          | some r =>
              refine ⟨by simp, fun is => ?_⟩
              cases is
              have ceased : fetch.outcome = some (.error .cancelled) := by
                simpa [Globals.outcome, found] using ended
              obtain ⟨r, ceased', other⟩ :=
                harmless (sound.honest fetch (List.mem_of_getElem? found) ceased)
              cases ceased.symm.trans ceased'
              exact other rfl

/-- A caller whose await has no answer stays where it is. -/
theorem resume_idle {op : CacheOp}
    {k : Except Raised RepoTree → Globals → Proc Globals CacheOp CacheRep _}
    (found : loop.callers[i]? = some caller) (calm : caller.thrown = false)
    (waits : caller.slot = .running op k) (running : loop.globals.outcome op.task = none) :
    step loop (.resume i) = loop := by
  obtain ⟨asked, cancelled, thrown, slot⟩ := caller
  cases waits
  simp only at calm
  have idle : answer loop.globals ⟨asked, cancelled, thrown, .running op k⟩ op = none := by
    simp [answer, calm, running]
  simp only [step, found, idle]

theorem resumed_free (unharmed : Unharmed loop) (sound : Sound loop) {caller' : Caller}
    (found : loop.callers[j]? = some caller) (calm : caller.cancelled = false)
    (found' : (step loop (.resume j)).callers[j]? = some caller') :
    Free (step loop (.resume j)).globals caller'.slot := by
  have mem := List.mem_of_getElem? found
  have free := unharmed j caller found calm
  cases at_ : caller.slot with
  | finished r =>
      obtain ⟨asked, cancelled, thrown, slot⟩ := caller
      cases at_
      have still : step loop (.resume j) = loop := by simp only [step, found]
      rw [still] at found' ⊢
      cases found.symm.trans found'
      exact free
  | running op k =>
      cases ended : loop.globals.outcome op.task with
      | none =>
          have still := resume_idle found (sound.calm mem calm) at_ ended
          rw [still] at found' ⊢
          cases found.symm.trans found'
          exact free
      | some r =>
          obtain ⟨told, there, is⟩ := resume_told sound found calm at_ ended
          cases found'.symm.trans there
          obtain ⟨fetch, there', -⟩ := outcome_eq_some.mp ended
          have other := not_cancelling sound there'
            (free.running op k fetch at_ there') ended
          refine ⟨fun op k fetch waits => ?_, fun absurd => ?_⟩
          · cases is.symm.trans waits
          · cases is.symm.trans absurd
            exact other rfl

theorem cancel_marks {caller' : Caller} {op : CacheOp}
    {k : Except Raised RepoTree → Globals → Proc Globals CacheOp CacheRep _}
    (found : loop.callers[j]? = some caller) (waits : caller.slot = .running op k)
    (found' : (step loop (.cancel j)).callers[j]? = some caller') : caller'.cancelled = true := by
  obtain ⟨asked, cancelled, thrown, slot⟩ := caller
  cases waits
  have lt := (List.getElem?_eq_some_iff.mp found).1
  simp only [step, found, requested] at found'
  split at found'
  · rw [List.getElem?_set_self lt] at found'
    cases found'
    rfl
  · rw [List.getElem?_set_self lt] at found'
    cases found'
    rfl

theorem Unharmed.step (unharmed : Unharmed loop) (sound : Sound loop)
    (spared : Spares loop e) : Unharmed (step loop e) := by
  intro j caller' found' calm'
  rcases step_callers found' with ⟨caller, found, asked, marks, moves⟩ | ⟨asked, rfl, rfl⟩
  · have calm : caller.cancelled = false := by
      rcases marks with same | ⟨-, asked_to⟩
      · exact same ▸ calm'
      · cases calm'.symm.trans asked_to
    rcases moves with same | rfl
    · rw [same]
      have free := unharmed j caller found calm
      refine ⟨fun op k fetch' waits there' => ?_, free.told⟩
      rcases step_fetches sound there' with ⟨fetch, there, -, kept⟩ | ⟨asked, -, rfl⟩
      · rcases kept with kept | ⟨i, rfl, owned, running⟩
        · rw [kept]
          exact free.running op k fetch waits there
        · have never : loop.globals.outcome op.task = none := by
            simp [Globals.outcome, there, running]
          cases op with
          | own t =>
              cases sound.sole i j t owned ⟨caller, k, found, waits⟩
              cases calm'.symm.trans (cancel_marks found waits found')
          | shield t =>
              have asked_to := spared t caller k owned never (List.mem_of_getElem? found) waits
              cases calm.symm.trans asked_to
      · rfl
    · exact resumed_free unharmed sound found calm found'
  · exact called_unharmed sound spared

/-! ## Whose cancellation reaches whom -/

/-- A step after which every such caller is served has spared them. -/
theorem spares_of_served (served : AllServed (step loop e)) :
    Spares loop e := by
  cases e with
  | settle task r => trivial
  | resume i => trivial
  | call asked =>
      intro t fetch cached flying found asked_to
      have next : step loop (.call asked) =
          ⟨(Slot.ofProc (joined t loop.globals)).1, loop.callers ++
            [⟨asked, false, false, (Slot.ofProc (joined t loop.globals)).2⟩]⟩ := by
        simp only [step, ofProc_cached, cached, flying]
      have owed := served loop.callers.length
        ⟨asked, false, false, (Slot.ofProc (joined t loop.globals)).2⟩ (by simp [next]) rfl
      rw [next] at owed
      rw [ofProc_joined] at owed
      cases ended : loop.globals.outcome t with
      | none =>
          simp only [Served, ended] at owed
          obtain ⟨fetch', found', -, calm, -⟩ := owed
          cases found.symm.trans found'
          cases asked_to.symm.trans calm
      | some r =>
          simp only [Served, ended] at owed
          exact ⟨r, by simpa [Globals.outcome, found] using ended, owed.1⟩
  | cancel i =>
      intro t caller k owned running mem waits
      by_contra spared
      have spared : caller.cancelled = false := by simpa using spared
      obtain ⟨j, found⟩ := List.getElem?_of_mem mem
      obtain ⟨⟨asked, cancelled, thrown, slot⟩, l, at_i, owns⟩ := owned
      cases owns
      have other : j ≠ i := by
        rintro rfl
        cases found.symm.trans at_i
        cases waits
      have next : step loop (.cancel i) =
          ⟨loop.globals.setFetch t fun fetch => { fetch with cancelling := true },
            loop.callers.set i ⟨asked, true, thrown, .running (.own t) l⟩⟩ := by
        simp only [step, at_i, requested, CacheOp.task, running]
      have there : (step loop (.cancel i)).callers[j]? = some caller := by
        rw [next, List.getElem?_set_ne (Ne.symm other)]
        exact found
      have owed := served j caller there spared
      rw [next] at owed
      simp only [Served, waits, CacheOp.task, Globals.setFetch] at owed
      obtain ⟨fetch, there, -, calm, -⟩ := owed
      rw [List.getElem?_modify] at there
      obtain ⟨old, -, is⟩ := Option.map_eq_some_iff.mp there
      simp only [if_true] at is
      rw [← is] at calm
      cases calm

theorem unharmed_start : Unharmed {} := by
  intro j caller found
  cases found

/-- In every state of a run, every caller that nobody asked to cancel is served, exactly if no
such caller waits for a fetch whose own starter was asked to cancel while it ran. -/
theorem all_served_iff (events : List Event) :
    Along step (fun loop e => AllServed (step loop e)) events {} ↔
      Along step Spares events {} := by
  constructor
  · intro served
    refine served.of_invariant (I := fun _ => True) ?_ ?_ trivial
    · exact fun _ _ _ _ => trivial
    · exact fun _ _ _ owed => spares_of_served owed
  · intro spared
    refine spared.of_invariant (I := fun loop => Sound loop ∧ Unharmed loop) ?_ ?_
      ⟨sound_start, unharmed_start⟩
    · rintro loop e ⟨sound, unharmed⟩ spared
      exact ⟨sound.step e, unharmed.step sound spared⟩
    · rintro loop e ⟨sound, unharmed⟩ spared
      exact (unharmed.step sound spared).served (sound.step e)

def shopTree : Asked := ⟨⟨"github.com", "acme", "shop", none⟩, "c0ffee12", {}⟩

/-- Two callers share a fetch, and the one that started it is cancelled. -/
def starterCancelled : List Event :=
  [.call shopTree, .call shopTree, .cancel 0, .settle 0 (.error .cancelled), .resume 1]

/-- The caller that nobody cancelled is told that it was. -/
theorem sharer_cancelled : .cancel 1 ∉ starterCancelled ∧
    ∃ caller, (play starterCancelled).callers[1]? = some caller ∧ caller.cancelled = false ∧
      caller.slot = .finished (.error .cancelled) :=
  ⟨by simp [starterCancelled], _, rfl, rfl, rfl⟩

/-! ## Runs in which nobody is cancelled -/

theorem step_maps (sound : Sound loop) (e : Event) :
    ((step loop e).globals.inflight = loop.globals.inflight ∧
      ∀ k tree, (k, tree) ∈ (step loop e).globals.trees.entries →
        (k, tree) ∈ loop.globals.trees.entries) ∨
    (∃ k t, loop.globals.trees.get? k = none ∧ loop.globals.inflight.get? k = none ∧
      (step loop e).globals.inflight = loop.globals.inflight.insert k t ∧
      (step loop e).globals.trees = loop.globals.trees) ∨
    ∃ k, (step loop e).globals.inflight = loop.globals.inflight.pop k ∧
      ∀ l tree, (l, tree) ∈ (step loop e).globals.trees.entries →
        (l, tree) ∈ loop.globals.trees.entries ∨ l = k := by
  cases e with
  | settle task r => exact .inl ⟨rfl, fun _ _ mem => mem⟩
  | call asked =>
      simp only [step]
      rw [ofProc_cached]
      cases cached : loop.globals.trees.get? (key asked) with
      | some tree => exact .inl ⟨rfl, fun _ _ mem => OrderedDict.mem_move_to_end.mp mem⟩
      | none =>
          dsimp only
          cases flying : loop.globals.inflight.get? (key asked) with
          | none => exact .inr (.inl ⟨key asked, _, cached, flying, rfl, rfl⟩)
          | some t =>
              dsimp only
              rw [ofProc_joined]
              cases loop.globals.outcome t <;> exact .inl ⟨rfl, fun _ _ mem => mem⟩
  | resume i =>
      simp only [step]
      split
      next asked cancelled thrown op k found =>
        have stands : Stands loop.globals (key asked) cancelled (.running op k) :=
          sound.stands _ (List.mem_of_getElem? found)
        split
        next r given =>
          cases stands with
          | waits => exact .inl ⟨rfl, fun _ _ mem => mem⟩
          | owns =>
              rw [ofProc_keep]
              refine .inr (.inr ⟨key asked, ?_⟩)
              cases r with
              | error e => exact ⟨rfl, fun _ _ mem => .inl mem⟩
              | ok tree =>
                  refine ⟨rfl, fun l held mem => ?_⟩
                  rcases OrderedDict.mem_insert (OrderedDict.mem_shed mem) with old | ⟨is, -⟩
                  · exact .inl old
                  · exact .inr is
        next => exact .inl ⟨rfl, fun _ _ mem => mem⟩
      next => exact .inl ⟨rfl, fun _ _ mem => mem⟩
  | cancel i =>
      simp only [step]
      split
      · unfold requested
        split <;> exact .inl ⟨rfl, fun _ _ mem => mem⟩
      · exact .inl ⟨rfl, fun _ _ mem => mem⟩

/-- Nothing is fetched that is held. -/
def Apart (loop : Loop) : Prop :=
  ∀ k t tree, (k, t) ∈ loop.globals.inflight.entries → (k, tree) ∉ loop.globals.trees.entries

theorem Apart.step (apart : Apart loop) (sound : Sound loop) (e : Event) :
    Apart (step loop e) := by
  intro k t tree flying held
  rcases step_maps sound e with ⟨same, old⟩ | ⟨l, u, missing, idle, grown, same⟩ | ⟨l, popped, old⟩
  · rw [same] at flying
    exact apart k t tree flying (old k tree held)
  · rw [grown] at flying
    rw [same] at held
    rcases OrderedDict.mem_insert flying with flying | ⟨rfl, -⟩
    · exact apart k t tree flying held
    · exact OrderedDict.get?_eq_none.mp missing tree held
  · rw [popped] at flying
    obtain ⟨flying, other⟩ := OrderedDict.mem_pop.mp flying
    rcases old k tree held with held | rfl
    · exact apart k t tree flying held
    · exact other rfl

/-- Nobody was cancelled, and everything asked for is known by its key. -/
structure Quiet (loop : Loop) : Prop where
  callers : ∀ caller ∈ loop.callers, caller.cancelled = false ∧ Admissible caller.asked
  fetches : ∀ fetch ∈ loop.globals.fetches, fetch.cancelling = false ∧ Admissible fetch.asked

/-- Events of a run in which nobody is cancelled. -/
def Tame : Event → Prop
  | .call asked => Admissible asked
  | .cancel _ => False
  | _ => True

theorem Quiet.step (quiet : Quiet loop) (sound : Sound loop) (tame : Tame e) :
    Quiet (step loop e) where
  callers caller' mem := by
    obtain ⟨j, found⟩ := List.getElem?_of_mem mem
    rcases step_callers found with ⟨caller, there, asked, marks, -⟩ | ⟨asked, rfl, rfl⟩
    · obtain ⟨calm, adm⟩ := quiet.callers caller (List.mem_of_getElem? there)
      rcases marks with same | ⟨rfl, -⟩
      · exact ⟨same.trans calm, asked ▸ adm⟩
      · exact tame.elim
    · exact ⟨rfl, tame⟩
  fetches fetch' mem := by
    obtain ⟨u, found⟩ := List.getElem?_of_mem mem
    rcases step_fetches sound found with ⟨fetch, there, asked, marks⟩ | ⟨asked, rfl, rfl⟩
    · obtain ⟨calm, adm⟩ := quiet.fetches fetch (List.mem_of_getElem? there)
      rcases marks with same | ⟨i, rfl, -⟩
      · exact ⟨same.trans calm, asked ▸ adm⟩
      · exact tame.elim
    · exact ⟨rfl, tame⟩

theorem Quiet.spares (quiet : Quiet loop) (tame : Tame e) : Spares loop e := by
  cases e with
  | settle task r => trivial
  | resume i => trivial
  | cancel i => exact tame.elim
  | call asked =>
      intro t fetch cached flying found asked_to
      cases asked_to.symm.trans (quiet.fetches fetch (List.mem_of_getElem? found)).1

/-- What the cache is for. -/
structure Faithful (loop : Loop) : Prop where
  /-- A caller is told how a fetch of exactly what it asked for ended. -/
  told : ∀ caller ∈ loop.callers, ∀ r, caller.slot = .finished r → r ≠ .error .cancelled ∧
    ∃ fetch ∈ loop.globals.fetches, fetch.asked = caller.asked ∧ fetch.outcome = some r
  /-- One that waits is told as soon as such a fetch has ended. -/
  waits : ∀ (i : Nat) (caller : Caller) op k, loop.callers[i]? = some caller →
    caller.slot = .running op k → ∃ fetch, loop.globals.fetches[op.task]? = some fetch ∧
      fetch.asked = caller.asked ∧ ∀ r, fetch.outcome = some r →
        ∃ told, (step loop (.resume i)).callers[i]? = some told ∧ told.slot = .finished r
  /-- Of what is asked for, one fetch runs at a time. -/
  single : ∀ (t u : Nat) (fetch fetch' : Fetch), loop.globals.fetches[t]? = some fetch →
    loop.globals.fetches[u]? = some fetch' → fetch.outcome = none → fetch'.outcome = none →
    key fetch.asked = key fetch'.asked → t = u
  /-- A tree that was fetched is held when the caller that started the fetch is told. -/
  kept : ∀ i t (caller : Caller) k tree, loop.callers[i]? = some caller →
    caller.slot = .running (.own t) k → loop.globals.outcome t = some (.ok tree) →
    (step loop (.resume i)).globals.trees.get? (key caller.asked) = some tree
  /-- While it is held it is served, and not fetched again. -/
  held : ∀ asked tree, Admissible asked → loop.globals.trees.get? (key asked) = some tree →
    (step loop (.call asked)).globals.fetches = loop.globals.fetches ∧
    (∃ caller, (step loop (.call asked)).callers[loop.callers.length]? = some caller ∧
      caller.slot = .finished (.ok tree)) ∧
    ∃ fetch ∈ loop.globals.fetches, fetch.asked = asked ∧ fetch.outcome = some (.ok tree)
  /-- Once the caller that started a fetch was told that it failed, it is fetched anew. -/
  forgotten : ∀ asked, Admissible asked → loop.globals.trees.get? (key asked) = none →
    (∀ i t (fetch : Fetch), Owns loop.callers i t → loop.globals.fetches[t]? = some fetch →
      fetch.asked ≠ asked) →
    (step loop (.call asked)).globals.fetches = loop.globals.fetches ++ [⟨asked, false, none⟩]
  bounded : loop.globals.trees.length ≤ maxEntries

theorem single_of_sound (sound : Sound loop) {t u : Nat} {fetch fetch' : Fetch}
    (found : loop.globals.fetches[t]? = some fetch)
    (found' : loop.globals.fetches[u]? = some fetch') (running : fetch.outcome = none)
    (running' : fetch'.outcome = none) (same : key fetch.asked = key fetch'.asked) : t = u := by
  have flying := sound.listed t fetch found running
  rw [same] at flying
  exact OrderedDict.same_of_mem flying (sound.listed u fetch' found' running')

theorem kept_of_apart (sound : Sound loop) (apart : Apart loop)
    (calm : ∀ caller ∈ loop.callers, caller.thrown = false) {tree : RepoTree}
    {k : Except Raised RepoTree → Globals → Proc Globals CacheOp CacheRep _}
    (found : loop.callers[i]? = some caller) (owns : caller.slot = .running (.own t) k)
    (ended : loop.globals.outcome t = some (.ok tree)) :
    (step loop (.resume i)).globals.trees.get? (key caller.asked) = some tree := by
  obtain ⟨asked, cancelled, thrown, slot⟩ := caller
  cases owns
  have mem := List.mem_of_getElem? found
  have calm : thrown = false := calm _ mem
  have given : answer loop.globals ⟨asked, cancelled, thrown, .running (.own t) k⟩ (.own t) =
      some (.ok tree) := by
    simpa [answer, calm, CacheOp.task] using ended
  have stands : Stands loop.globals (key asked) cancelled (.running (.own t) k) :=
    sound.stands _ mem
  cases stands with
  | owns there same listed =>
      simp only [step, found, given]
      rw [ofProc_keep]
      have missing : loop.globals.trees.get? (key asked) = none :=
        OrderedDict.get?_eq_none.mpr fun tree => apart _ _ tree listed
      exact OrderedDict.get?_shed_insert missing (by decide)

theorem faithful_of_quiet (sound : Sound loop) (unharmed : Unharmed loop) (apart : Apart loop)
    (quiet : Quiet loop) : Faithful loop := by
  have exact_fetch : ∀ {asked : Asked} {fetch : Fetch}, Admissible asked →
      fetch ∈ loop.globals.fetches → key fetch.asked = key asked → fetch.asked = asked :=
    fun adm mem same => key_inj (quiet.fetches _ mem).2 adm same
  have served : ∀ (i : Nat) (caller : Caller), loop.callers[i]? = some caller →
      Served loop i caller := fun i caller found =>
    unharmed.served sound i caller found (quiet.callers caller (List.mem_of_getElem? found)).1
  refine ⟨?_, ?_, fun _ _ _ _ => single_of_sound sound, ?_, ?_, ?_, sound.bounded⟩
  · intro caller mem r told
    obtain ⟨i, found⟩ := List.getElem?_of_mem mem
    have owed := served i caller found
    simp only [Served, told] at owed
    obtain ⟨other, fetch, there, same, ended⟩ := owed
    exact ⟨other, fetch, there, exact_fetch (quiet.callers caller mem).2 there same, ended⟩
  · intro i caller op k found waits
    have owed := served i caller found
    simp only [Served, waits] at owed
    obtain ⟨fetch, there, same, -, told⟩ := owed
    have adm := (quiet.callers caller (List.mem_of_getElem? found)).2
    exact ⟨fetch, there, exact_fetch adm (List.mem_of_getElem? there) same, told⟩
  · intro i t caller k tree found owns ended
    exact kept_of_apart sound apart
      (fun caller mem => sound.calm mem (quiet.callers caller mem).1) found owns ended
  · intro asked tree adm held
    have next : step loop (.call asked) =
        ⟨{ loop.globals with trees := loop.globals.trees.moveToEnd (key asked) },
          loop.callers ++ [⟨asked, false, false, .finished (.ok tree)⟩]⟩ := by
      simp only [step, ofProc_cached, held]
    obtain ⟨fetch, there, same, ended⟩ := sound.trees _ _ (OrderedDict.mem_of_get? held)
    refine ⟨by rw [next], ⟨⟨asked, false, false, .finished (.ok tree)⟩, by simp [next], rfl⟩, ?_⟩
    exact ⟨fetch, there, exact_fetch adm there same, ended⟩
  · intro asked adm missing unowned
    have idle : loop.globals.inflight.get? (key asked) = none := by
      refine OrderedDict.get?_eq_none.mpr fun t flying => ?_
      obtain ⟨⟨fetch, there, same⟩, i, owned⟩ := sound.inflight _ _ flying
      exact unowned i t fetch owned there
        (exact_fetch adm (List.mem_of_getElem? there) same)
    simp only [step, ofProc_cached, missing, idle, ofProc_started]

/-- Whatever is asked for, in whatever order callers run and fetches end. -/
theorem cached_faithful {events : List Event} (uncancelled : ∀ i, .cancel i ∉ events)
    (admissible : ∀ asked, .call asked ∈ events → Admissible asked) :
    Faithful (play events) := by
  suffices run : ∀ (events : List Event) (loop : Loop), (∀ e ∈ events, Tame e) → Sound loop →
      Unharmed loop → Apart loop → Quiet loop → Faithful (events.foldl step loop) by
    refine run events {} (fun e mem => ?_) sound_start unharmed_start ?_ ⟨?_, ?_⟩
    · cases e with
      | call asked => exact admissible asked mem
      | cancel i => exact absurd mem (uncancelled i)
      | settle task r => trivial
      | resume i => trivial
    · intro k t tree flying
      cases flying
    · intro caller mem
      cases mem
    · intro fetch mem
      cases mem
  intro events
  induction events with
  | nil => exact fun loop _ sound unharmed apart quiet =>
      faithful_of_quiet sound unharmed apart quiet
  | cons e rest ih =>
      intro loop tame sound unharmed apart quiet
      have here := tame e List.mem_cons_self
      exact ih (step loop e) (fun e mem => tame e (List.mem_cons_of_mem _ mem)) (sound.step e)
        (unharmed.step sound (quiet.spares here)) (apart.step sound e) (quiet.step sound here)

theorem admissible_shopTree : Admissible shopTree where
  project := by simp [shopTree]
  free := by decide
  exclude := by decide

/-- A fetch that two callers share, and whose tree is held for a third. -/
def sharedFetch : List Event := [.call shopTree, .call shopTree,
  .settle 0 (.ok ⟨"c0ffee12", [("app.py", [120])]⟩), .resume 1, .resume 0, .call shopTree]

theorem cached_faithful_shared : Faithful (play sharedFetch) := by
  refine cached_faithful (by simp [sharedFetch]) fun asked mem => ?_
  have is : asked = shopTree := by simpa [sharedFetch] using mem
  exact is ▸ admissible_shopTree

end KuWarden.TreeCache
