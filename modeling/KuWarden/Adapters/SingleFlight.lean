import KuWarden.Adapters.TreeCache

/-!
What the callers of one worker's tree cache are given, in whatever order they run.

A fetch that has not ended is in flight under its own key, and stays there until the caller
that started it has taken its outcome. Everything else follows from that.
-/
namespace KuWarden.TreeCache

open Process Python

/-! ## The key is what was asked for -/

structure Admissible (asked : Asked) : Prop where
  project : asked.ref.project ≠ some ""
  free : ∀ pattern ∈ asked.limits.exclude, '|' ∉ pattern.toList
  exclude : asked.limits.exclude ≠ [""]

theorem key_inj {asked asked' : Asked} (adm : Admissible asked) (adm' : Admissible asked')
    (same : key asked = key asked') : asked = asked' := by
  obtain ⟨⟨host, org, repo, project⟩, commit, files, size, total, exclude⟩ := asked
  obtain ⟨⟨host', org', repo', project'⟩, commit', files', size', total', exclude'⟩ := asked'
  simp only [key, List.cons.injEq, and_true] at same
  obtain ⟨rfl, rfl, rfl, projects, rfl, files_eq, size_eq, total_eq, joined⟩ := same
  have number : ∀ {m n : Nat}, Text.ofNat m = Text.ofNat n → m = n := fun same =>
    Text.ofNat_inj (congrArg String.toList same)
  have patterns : exclude = exclude' :=
    Text.join_inj (by decide) adm.free adm'.free adm.exclude adm'.exclude joined
  have nested : project = project' := by
    cases project with
    | none =>
        cases project' with
        | none => rfl
        | some name => exact absurd (congrArg some projects.symm) adm'.project
    | some name =>
        cases project' with
        | none => exact absurd (congrArg some projects) adm.project
        | some name' => exact congrArg some projects
  cases number files_eq
  cases number size_eq
  cases number total_eq
  rw [patterns, nested]

/-! ## What a caller does between two awaits -/

/-- What follows the await of a shield. -/
def taken (outcome : Except Raised RepoTree) (g : Globals) :
    Proc Globals CacheOp CacheRep (Except Raised RepoTree) := .done g outcome

theorem ofProc_joined (t : Nat) (g : Globals) : Slot.ofProc (joined t g) =
    match g.outcome t with
    | some outcome => (g, .finished outcome)
    | none => (g, .running (.shield t) taken) := by
  show Slot.ofProc ((match g.outcome t with
    | some outcome => Task.ofExcept outcome
    | none => Task.call (CacheOp.shield t) >>= Task.ofExcept : Caching RepoTree) g) = _
  cases g.outcome t <;> rfl

theorem ofProc_started (asked : Asked) (g : Globals) : Slot.ofProc (started asked g) =
    ({ g with
        fetches := g.fetches ++ [⟨asked, false, none⟩]
        inflight := g.inflight.insert (key asked) g.fetches.length },
      .running (.own g.fetches.length) (keep (key asked))) := rfl

theorem ofProc_keep (k : Key) (outcome : Except Raised RepoTree) (g : Globals) :
    Slot.ofProc (keep k outcome g) = match outcome with
    | .ok tree => ({ g with
        inflight := g.inflight.pop k
        trees := (g.trees.insert k tree).shed maxEntries }, .finished (.ok tree))
    | .error e => ({ g with inflight := g.inflight.pop k }, .finished (.error e)) := by
  cases outcome <;> rfl

theorem ofProc_cached (asked : Asked) (g : Globals) : Slot.ofProc (cached asked g) =
    match g.trees.get? (key asked) with
    | some hit => ({ g with trees := g.trees.moveToEnd (key asked) }, .finished (.ok hit))
    | none =>
        match g.inflight.get? (key asked) with
        | some t => Slot.ofProc (joined t g)
        | none => Slot.ofProc (started asked g) := by
  show Slot.ofProc ((match g.trees.get? (key asked) with
    | some hit => (do
        Task.update fun g => { g with trees := g.trees.moveToEnd (key asked) }
        return hit)
    | none =>
        match g.inflight.get? (key asked) with
        | some t => joined t
        | none => started asked : Caching RepoTree) g) = _
  cases g.trees.get? (key asked) with
  | some hit => rfl
  | none => cases g.inflight.get? (key asked) <;> rfl

/-! ## Fetches -/

/-- A fetch under the key `k` has ended with `r`. -/
def Fetched (g : Globals) (k : Key) (r : Except Raised RepoTree) : Prop :=
  ∃ fetch ∈ g.fetches, key fetch.asked = k ∧ fetch.outcome = some r

/-- What a fetch was started for, and how it ended, stays. -/
def Later (g g' : Globals) : Prop :=
  ∀ (t : Nat) (fetch : Fetch), g.fetches[t]? = some fetch →
    ∃ fetch' : Fetch, g'.fetches[t]? = some fetch' ∧ fetch'.asked = fetch.asked ∧
      ∀ r, fetch.outcome = some r → fetch'.outcome = some r

theorem Later.of_same {g g' : Globals} (same : g'.fetches = g.fetches) : Later g g' := by
  intro t fetch found
  exact ⟨fetch, same ▸ found, rfl, fun _ ended => ended⟩

theorem Later.of_append {g g' : Globals} {more : List Fetch}
    (grown : g'.fetches = g.fetches ++ more) : Later g g' := by
  intro t fetch found
  refine ⟨fetch, ?_, rfl, fun _ ended => ended⟩
  rw [grown, List.getElem?_append_left (List.getElem?_eq_some_iff.mp found).1]
  exact found

theorem Later.of_setFetch {g : Globals} {t : Nat} {f : Fetch → Fetch}
    (asked : ∀ fetch, (f fetch).asked = fetch.asked)
    (ended : ∀ fetch r, fetch.outcome = some r → (f fetch).outcome = some r) :
    Later g (g.setFetch t f) := by
  intro u fetch found
  by_cases here : u = t
  · subst here
    exact ⟨f fetch, by simp [Globals.setFetch, found], asked fetch, ended fetch⟩
  · refine ⟨fetch, ?_, rfl, fun _ ended => ended⟩
    simp [Globals.setFetch, Ne.symm here, found]

theorem Fetched.later {g g' : Globals} {k : Key} {r : Except Raised RepoTree}
    (fetched : Fetched g k r) (later : Later g g') : Fetched g' k r := by
  obtain ⟨fetch, mem, rfl, ended⟩ := fetched
  obtain ⟨t, found⟩ := List.getElem?_of_mem mem
  obtain ⟨fetch', found', asked, kept⟩ := later t fetch found
  exact ⟨fetch', List.mem_of_getElem? found', congrArg key asked, kept r ended⟩

theorem outcome_eq_some {g : Globals} {t : Nat} {r : Except Raised RepoTree} :
    g.outcome t = some r ↔ ∃ fetch, g.fetches[t]? = some fetch ∧ fetch.outcome = some r :=
  Option.bind_eq_some_iff

theorem settle_asked (fetch : Fetch) (r : Except Raised RepoTree) :
    (fetch.settle r).asked = fetch.asked := by
  unfold Fetch.settle
  split <;> rfl

theorem settle_ended {fetch : Fetch} {r r' : Except Raised RepoTree}
    (ended : fetch.outcome = some r') : (fetch.settle r).outcome = some r' := by
  simp [Fetch.settle, ended]

theorem settle_cancelling (fetch : Fetch) (r : Except Raised RepoTree) :
    (fetch.settle r).cancelling = fetch.cancelling := by
  unfold Fetch.settle
  split <;> rfl

/-- A fetch that ends cancelled was asked to. -/
theorem settle_honest {fetch : Fetch} {r : Except Raised RepoTree}
    (honest : fetch.outcome = some (.error .cancelled) → fetch.cancelling = true)
    (ended : (fetch.settle r).outcome = some (.error .cancelled)) :
    (fetch.settle r).cancelling = true := by
  rw [settle_cancelling]
  unfold Fetch.settle at ended
  split at ended
  · exact honest ended
  next allowed =>
    cases ended
    have asked_to : fetch.outcome = none ∧ fetch.cancelling = true := by
      simpa [isCancelled] using allowed
    exact asked_to.2

/-! ## The invariant -/

/-- The caller at `i` started the fetch `t`, and has not been told how it ended. -/
def Owns (callers : List Caller) (i t : Nat) : Prop :=
  ∃ caller k, callers[i]? = some caller ∧ caller.slot = .running (.own t) k

/-- Where a caller that asked for `k` may stand. -/
inductive Stands (g : Globals) (k : Key) (cancelled : Bool) : Suspended → Prop
  | owns {t : Nat} {fetch : Fetch} : g.fetches[t]? = some fetch → key fetch.asked = k →
      (k, t) ∈ g.inflight.entries → Stands g k cancelled (.running (.own t) (keep k))
  | waits {t : Nat} {fetch : Fetch} : g.fetches[t]? = some fetch → key fetch.asked = k →
      Stands g k cancelled (.running (.shield t) taken)
  | told {r : Except Raised RepoTree} : Fetched g k r → Stands g k cancelled (.finished r)
  | thrown : cancelled = true → Stands g k cancelled (.finished (.error .cancelled))

structure Sound (loop : Loop) : Prop where
  trees : ∀ k tree, (k, tree) ∈ loop.globals.trees.entries → Fetched loop.globals k (.ok tree)
  bounded : loop.globals.trees.length ≤ maxEntries
  inflight : ∀ k t, (k, t) ∈ loop.globals.inflight.entries →
    (∃ fetch, loop.globals.fetches[t]? = some fetch ∧ key fetch.asked = k) ∧
      ∃ i, Owns loop.callers i t
  listed : ∀ (t : Nat) (fetch : Fetch), loop.globals.fetches[t]? = some fetch →
    fetch.outcome = none → (key fetch.asked, t) ∈ loop.globals.inflight.entries
  sole : ∀ i j t, Owns loop.callers i t → Owns loop.callers j t → i = j
  stands : ∀ caller ∈ loop.callers,
    Stands loop.globals (key caller.asked) caller.cancelled caller.slot
  thrown : ∀ caller ∈ loop.callers, caller.thrown = true → caller.cancelled = true ∧
    ∀ t k, caller.slot = .running (.own t) k → loop.globals.outcome t ≠ none
  honest : ∀ fetch ∈ loop.globals.fetches,
    fetch.outcome = some (.error .cancelled) → fetch.cancelling = true

variable {g g' : Globals} {k : Key} {cancelled : Bool} {slot : Suspended} {loop : Loop}
  {callers : List Caller} {caller caller' : Caller} {i j t : Nat}

/-- What a caller was told, or waits for, stays while its own key is in flight. -/
theorem Stands.later (stands : Stands g k cancelled slot) (later : Later g g')
    (kept : ∀ t, slot = .running (.own t) (keep k) → (k, t) ∈ g.inflight.entries →
      (k, t) ∈ g'.inflight.entries) : Stands g' k cancelled slot := by
  cases stands with
  | owns found same listed =>
      obtain ⟨fetch', found', asked, -⟩ := later _ _ found
      exact .owns found' ((congrArg key asked).trans same) (kept _ rfl listed)
  | waits found same =>
      obtain ⟨fetch', found', asked, -⟩ := later _ _ found
      exact .waits found' ((congrArg key asked).trans same)
  | told fetched => exact .told (fetched.later later)
  | thrown asked_to => exact .thrown asked_to

theorem owns_append : Owns (callers ++ [caller]) i t ↔
    Owns callers i t ∨ i = callers.length ∧ ∃ k, caller.slot = .running (.own t) k := by
  constructor
  · rintro ⟨found, k, at_i, owned⟩
    rcases Nat.lt_or_ge i callers.length with lt | ge
    · rw [List.getElem?_append_left lt] at at_i
      exact .inl ⟨found, k, at_i, owned⟩
    · rw [List.getElem?_append_right ge] at at_i
      obtain ⟨lt, is⟩ := List.getElem?_eq_some_iff.mp at_i
      simp only [List.length_singleton] at lt
      have last : i = callers.length := by omega
      have same : caller = found := by simpa [last] using is
      exact .inr ⟨last, k, same ▸ owned⟩
  · rintro (⟨found, k, at_i, owned⟩ | ⟨rfl, k, owned⟩)
    · exact ⟨found, k, by
        rw [List.getElem?_append_left (List.getElem?_eq_some_iff.mp at_i).1]; exact at_i, owned⟩
    · exact ⟨caller, k, by simp, owned⟩

theorem owns_set (found : callers[i]? = some caller) : Owns (callers.set i caller') j t ↔
    j = i ∧ (∃ k, caller'.slot = .running (.own t) k) ∨ j ≠ i ∧ Owns callers j t := by
  have lt := (List.getElem?_eq_some_iff.mp found).1
  by_cases here : j = i
  · subst here
    simp [Owns, lt]
  · simp [Owns, here, Ne.symm here]

/-- A caller whose await has not been answered owns what it owned. -/
theorem owns_set_same (found : callers[i]? = some caller) (same : caller'.slot = caller.slot) :
    Owns (callers.set i caller') j t ↔ Owns callers j t := by
  rw [owns_set found, same]
  by_cases here : j = i
  · subst here
    simp [Owns, found]
  · simp [here]

theorem sound_start : Sound {} where
  trees := by intro k tree mem; cases mem
  bounded := Nat.zero_le _
  inflight := by intro k t mem; cases mem
  listed := by intro t fetch found; cases found
  sole := by rintro i j t ⟨caller, k, found, -⟩; cases found
  stands := by intro caller mem; cases mem
  thrown := by intro caller mem; cases mem
  honest := by intro fetch mem; cases mem

/-! ## Steps -/

theorem mem_set {found : Caller} (mem : found ∈ callers.set i caller) :
    found ∈ callers ∨ found = caller :=
  List.mem_or_eq_of_mem_set mem

theorem Later.outcome {r : Except Raised RepoTree} (later : Later g g')
    (ended : g.outcome t = some r) : g'.outcome t = some r := by
  obtain ⟨fetch, found, ended⟩ := outcome_eq_some.mp ended
  obtain ⟨fetch', found', -, kept⟩ := later t fetch found
  exact outcome_eq_some.mpr ⟨fetch', found', kept r ended⟩

/-- A call that starts no fetch. -/
theorem Sound.joins (sound : Sound ⟨g, callers⟩) (fetches : g'.fetches = g.fetches)
    (inflight : g'.inflight = g.inflight)
    (trees : ∀ k tree, (k, tree) ∈ g'.trees.entries → (k, tree) ∈ g.trees.entries)
    (bounded : g'.trees.length ≤ maxEntries)
    (stands : Stands g' (key caller.asked) caller.cancelled caller.slot)
    (free : ∀ t k, caller.slot ≠ .running (.own t) k) (calm : caller.thrown = false) :
    Sound ⟨g', callers ++ [caller]⟩ where
  trees k tree mem := (sound.trees k tree (trees k tree mem)).later (.of_same fetches)
  bounded := bounded
  inflight k t mem := by
    obtain ⟨asked, i, owned⟩ := sound.inflight k t (inflight ▸ mem)
    exact ⟨fetches ▸ asked, i, owns_append.mpr (.inl owned)⟩
  listed t fetch found running := by
    rw [inflight]
    exact sound.listed t fetch (fetches ▸ found) running
  sole i j t owned owned' := by
    rcases owns_append.mp owned with owned | ⟨-, k, here⟩
    · rcases owns_append.mp owned' with owned' | ⟨-, k, here⟩
      · exact sound.sole i j t owned owned'
      · exact absurd here (free t k)
    · exact absurd here (free t k)
  stands other mem := by
    rcases List.mem_append.mp mem with old | new
    · exact (sound.stands other old).later (.of_same fetches) fun t _ listed =>
        inflight ▸ listed
    · cases List.mem_singleton.mp new
      exact stands
  thrown other mem raised := by
    rcases List.mem_append.mp mem with old | new
    · obtain ⟨asked_to, ended⟩ := sound.thrown other old raised
      refine ⟨asked_to, fun t k owned => ?_⟩
      have same : g'.outcome t = g.outcome t := by simp only [Globals.outcome, fetches]
      rw [same]
      exact ended t k owned
    · cases List.mem_singleton.mp new
      cases calm.symm.trans raised
  honest fetch mem := sound.honest fetch (fetches ▸ mem)

/-- A call that starts a fetch. -/
theorem Sound.starts {asked : Asked} (sound : Sound ⟨g, callers⟩)
    (idle : g.inflight.get? (key asked) = none) :
    Sound ⟨{ g with
        fetches := g.fetches ++ [⟨asked, false, none⟩]
        inflight := g.inflight.insert (key asked) g.fetches.length },
      callers ++ [⟨asked, false, false,
        .running (.own g.fetches.length) (keep (key asked))⟩]⟩ := by
  have later : Later g { g with
      fetches := g.fetches ++ [⟨asked, false, none⟩]
      inflight := g.inflight.insert (key asked) g.fetches.length } := .of_append rfl
  have fresh : ∀ i, ¬ Owns callers i g.fetches.length := by
    rintro i ⟨caller, k, found, owned⟩
    have stands := sound.stands caller (List.mem_of_getElem? found)
    rw [owned] at stands
    cases stands with
    | owns there same listed =>
        exact absurd (List.getElem?_eq_some_iff.mp there).1 (lt_irrefl _)
  refine ⟨fun k tree mem => (sound.trees k tree mem).later later, sound.bounded, ?_, ?_, ?_, ?_,
    ?_, ?_⟩
  · intro k t mem
    rcases (OrderedDict.mem_insert_new idle).mp mem with old | ⟨rfl, rfl⟩
    · obtain ⟨⟨fetch, found, same⟩, i, owned⟩ := sound.inflight k t old
      obtain ⟨fetch', found', is, -⟩ := later t fetch found
      exact ⟨⟨fetch', found', (congrArg key is).trans same⟩, i, owns_append.mpr (.inl owned)⟩
    · exact ⟨⟨⟨asked, false, none⟩, by simp, rfl⟩, callers.length,
        owns_append.mpr (.inr ⟨rfl, _, rfl⟩)⟩
  · intro t fetch found running
    refine (OrderedDict.mem_insert_new idle).mpr ?_
    rcases Nat.lt_or_ge t g.fetches.length with lt | ge
    · rw [List.getElem?_append_left lt] at found
      exact .inl (sound.listed t fetch found running)
    · have lt := (List.getElem?_eq_some_iff.mp found).1
      simp only [List.length_append, List.length_singleton] at lt
      have last : t = g.fetches.length := by omega
      subst last
      have is : Fetch.mk asked false none = fetch := by simpa using found
      exact .inr ⟨by rw [← is], rfl⟩
  · intro i j t owned owned'
    rcases owns_append.mp owned with old | ⟨last, k, new⟩
    · rcases owns_append.mp owned' with old' | ⟨last', k', new'⟩
      · exact sound.sole i j t old old'
      · cases new'
        exact absurd old (fresh i)
    · rcases owns_append.mp owned' with old' | ⟨last', k', new'⟩
      · cases new
        exact absurd old' (fresh j)
      · exact last.trans last'.symm
  · intro other mem
    rcases List.mem_append.mp mem with old | new
    · exact (sound.stands other old).later later fun t _ listed =>
        (OrderedDict.mem_insert_new idle).mpr (.inl listed)
    · cases List.mem_singleton.mp new
      have there : (g.fetches ++ [Fetch.mk asked false none])[g.fetches.length]? =
          some ⟨asked, false, none⟩ := by simp
      exact .owns there rfl ((OrderedDict.mem_insert_new idle).mpr (.inr ⟨rfl, rfl⟩))
  · intro other mem raised
    rcases List.mem_append.mp mem with old | new
    · obtain ⟨asked_to, ended⟩ := sound.thrown other old raised
      refine ⟨asked_to, fun t k owned none_yet => ?_⟩
      obtain ⟨r, ended⟩ := Option.ne_none_iff_exists'.mp (ended t k owned)
      cases none_yet.symm.trans (later.outcome ended)
    · cases List.mem_singleton.mp new
      cases raised
  · intro fetch mem ended
    rcases List.mem_append.mp mem with old | new
    · exact sound.honest fetch old ended
    · cases List.mem_singleton.mp new
      cases ended

theorem Sound.call (sound : Sound loop) (asked : Asked) : Sound (step loop (.call asked)) := by
  obtain ⟨g, callers⟩ := loop
  simp only [step]
  rw [ofProc_cached]
  cases cached : g.trees.get? (key asked) with
  | some tree =>
      have held := OrderedDict.mem_of_get? cached
      exact sound.joins rfl rfl (fun k tree => OrderedDict.mem_move_to_end.mp)
        (OrderedDict.length_move_to_end.trans_le sound.bounded)
        (.told (sound.trees _ _ held)) (by simp) rfl
  | none =>
      dsimp only
      cases flying : g.inflight.get? (key asked) with
      | none => exact sound.starts flying
      | some t =>
          obtain ⟨⟨fetch, found, same⟩, -⟩ :=
            sound.inflight _ _ (OrderedDict.mem_of_get? flying)
          dsimp only
          rw [ofProc_joined]
          cases ended : g.outcome t with
          | none =>
              exact sound.joins rfl rfl (fun _ _ mem => mem) sound.bounded
                (.waits found same) (by simp) rfl
          | some r =>
              have fetched : Fetched g (key asked) r :=
                ⟨fetch, List.mem_of_getElem? found, same, by
                  simpa [Globals.outcome, found] using ended⟩
              exact sound.joins rfl rfl (fun _ _ mem => mem) sound.bounded
                (.told fetched) (by simp) rfl

/-- A caller that owns no fetch takes an answer. -/
theorem Sound.takes (sound : Sound ⟨g, callers⟩) (found : callers[i]? = some caller)
    (stands : Stands g (key caller'.asked) caller'.cancelled caller'.slot)
    (was : ∀ t, ¬ Owns callers i t) (free : ∀ t k, caller'.slot ≠ .running (.own t) k)
    (calm : caller'.thrown = false) : Sound ⟨g, callers.set i caller'⟩ where
  trees := sound.trees
  bounded := sound.bounded
  inflight k t mem := by
    obtain ⟨asked, j, owned⟩ := sound.inflight k t mem
    have other : j ≠ i := fun same => was t (same ▸ owned)
    exact ⟨asked, j, (owns_set found).mpr (.inr ⟨other, owned⟩)⟩
  listed := sound.listed
  sole j l t owned owned' := by
    rcases (owns_set found).mp owned with ⟨-, k, here⟩ | ⟨-, owned⟩
    · exact absurd here (free t k)
    · rcases (owns_set found).mp owned' with ⟨-, k, here⟩ | ⟨-, owned'⟩
      · exact absurd here (free t k)
      · exact sound.sole j l t owned owned'
  stands other mem := by
    rcases mem_set mem with old | rfl
    · exact sound.stands other old
    · exact stands
  thrown other mem raised := by
    rcases mem_set mem with old | rfl
    · exact sound.thrown other old raised
    · cases calm.symm.trans raised
  honest := sound.honest

/-- The caller that started a fetch takes its outcome. -/
theorem Sound.ends (sound : Sound ⟨g, callers⟩) (found : callers[i]? = some caller)
    (owned : caller.slot = .running (.own t) (keep k)) (ended : g.outcome t ≠ none)
    (listed : (k, t) ∈ g.inflight.entries) (fetches : g'.fetches = g.fetches)
    (inflight : g'.inflight = g.inflight.pop k)
    (trees : ∀ k tree, (k, tree) ∈ g'.trees.entries → Fetched g k (.ok tree))
    (bounded : g'.trees.length ≤ maxEntries)
    (stands : Stands g' (key caller'.asked) caller'.cancelled caller'.slot)
    (free : ∀ t k, caller'.slot ≠ .running (.own t) k) (calm : caller'.thrown = false) :
    Sound ⟨g', callers.set i caller'⟩ := by
  have later : Later g g' := .of_same fetches
  have mine : Owns callers i t := ⟨caller, keep k, found, owned⟩
  refine ⟨fun k tree mem => (trees k tree mem).later later, bounded, ?_, ?_, ?_, ?_, ?_, ?_⟩
  · intro l u mem
    rw [inflight] at mem
    obtain ⟨mem, other⟩ := OrderedDict.mem_pop.mp mem
    obtain ⟨⟨fetch, there, same⟩, j, owned'⟩ := sound.inflight l u mem
    refine ⟨⟨fetch, fetches ▸ there, same⟩, j, (owns_set found).mpr (.inr ⟨?_, owned'⟩)⟩
    rintro rfl
    obtain ⟨caller₂, k₂, found₂, owned₂⟩ := owned'
    cases found.symm.trans found₂
    cases owned.symm.trans owned₂
    obtain ⟨⟨fetch', there', same'⟩, -⟩ := sound.inflight k t listed
    cases there.symm.trans there'
    exact other (same.symm.trans same')
  · intro u fetch there running
    rw [fetches] at there
    rw [inflight]
    refine OrderedDict.mem_pop.mpr ⟨sound.listed u fetch there running, fun same => ?_⟩
    have mem := sound.listed u fetch there running
    rw [same] at mem
    cases OrderedDict.same_of_mem mem listed
    exact ended (by simp [Globals.outcome, there, running])
  · intro j l u owned₁ owned₂
    rcases (owns_set found).mp owned₁ with ⟨-, k, here⟩ | ⟨-, owned₁⟩
    · exact absurd here (free u k)
    · rcases (owns_set found).mp owned₂ with ⟨-, k, here⟩ | ⟨-, owned₂⟩
      · exact absurd here (free u k)
      · exact sound.sole j l u owned₁ owned₂
  · intro other mem
    obtain ⟨j, at_j⟩ := List.getElem?_of_mem mem
    by_cases here : j = i
    · subst here
      rw [List.getElem?_set_self (List.getElem?_eq_some_iff.mp found).1] at at_j
      cases at_j
      exact stands
    · rw [List.getElem?_set_ne (Ne.symm here)] at at_j
      refine (sound.stands other (List.mem_of_getElem? at_j)).later later
        fun u owned₂ mem₂ => ?_
      rw [inflight]
      refine OrderedDict.mem_pop.mpr ⟨mem₂, fun same => ?_⟩
      rw [same] at mem₂
      cases OrderedDict.same_of_mem mem₂ listed
      exact here (sound.sole j i _ ⟨other, _, at_j, owned₂⟩ mine)
  · intro other mem raised
    rcases mem_set mem with old | rfl
    · obtain ⟨asked_to, ceased⟩ := sound.thrown other old raised
      refine ⟨asked_to, fun u l here none_yet => ?_⟩
      obtain ⟨r, ceased⟩ := Option.ne_none_iff_exists'.mp (ceased u l here)
      cases none_yet.symm.trans (later.outcome ceased)
    · cases calm.symm.trans raised
  · intro fetch mem
    exact sound.honest fetch (fetches ▸ mem)

/-- What the fetches become, and who was asked to cancel, moves no caller. -/
theorem Sound.touched {f : Fetch → Fetch} {callers' : List Caller}
    (sound : Sound ⟨g, callers⟩) (asked : ∀ fetch, (f fetch).asked = fetch.asked)
    (ended : ∀ fetch r, fetch.outcome = some r → (f fetch).outcome = some r)
    (honest : ∀ fetch ∈ g.fetches, (f fetch).outcome = some (.error .cancelled) →
      (f fetch).cancelling = true)
    (owns : ∀ i t, Owns callers' i t ↔ Owns callers i t)
    (same : ∀ caller' ∈ callers', ∃ caller ∈ callers, caller'.asked = caller.asked ∧
      caller'.slot = caller.slot ∧ (caller.cancelled = true → caller'.cancelled = true))
    (thrown : ∀ caller' ∈ callers', caller'.thrown = true → caller'.cancelled = true ∧
      ∀ t k, caller'.slot = .running (.own t) k → g.outcome t ≠ none) :
    Sound ⟨g.setFetch t f, callers'⟩ := by
  have later : Later g (g.setFetch t f) := .of_setFetch asked ended
  have back : ∀ (u : Nat) (fetch' : Fetch), (g.setFetch t f).fetches[u]? = some fetch' →
      ∃ fetch, g.fetches[u]? = some fetch ∧ (fetch' = fetch ∨ fetch' = f fetch) := by
    intro u fetch' found
    simp only [Globals.setFetch, List.getElem?_modify] at found
    obtain ⟨fetch, there, is⟩ := Option.map_eq_some_iff.mp found
    refine ⟨fetch, there, ?_⟩
    by_cases here : t = u
    · simp only [here, if_true] at is
      exact .inr is.symm
    · simp only [here, if_false] at is
      exact .inl is.symm
  refine ⟨fun k tree mem => (sound.trees k tree mem).later later, sound.bounded, ?_, ?_, ?_, ?_,
    ?_, ?_⟩
  · intro k u mem
    obtain ⟨⟨fetch, found, at_k⟩, i, owned⟩ := sound.inflight k u mem
    obtain ⟨fetch', found', is, -⟩ := later u fetch found
    exact ⟨⟨fetch', found', (congrArg key is).trans at_k⟩, i, (owns i u).mpr owned⟩
  · intro u fetch' found running
    obtain ⟨fetch, there, is⟩ := back u fetch' found
    have still : fetch.outcome = none ∧ fetch'.asked = fetch.asked := by
      rcases is with rfl | rfl
      · exact ⟨running, rfl⟩
      · refine ⟨?_, asked fetch⟩
        cases ceased : fetch.outcome with
        | none => rfl
        | some r => cases running.symm.trans (ended fetch r ceased)
    rw [still.2]
    exact sound.listed u fetch there still.1
  · intro i j u owned owned'
    exact sound.sole i j u ((owns i u).mp owned) ((owns j u).mp owned')
  · intro caller' mem
    obtain ⟨caller, mem, asked_eq, slot_eq, grown⟩ := same caller' mem
    rw [asked_eq, slot_eq]
    have stands := (sound.stands caller mem).later later fun _ _ listed => listed
    revert stands
    generalize caller.slot = slot
    intro stands
    cases stands with
    | owns found at_k listed => exact .owns found at_k listed
    | waits found at_k => exact .waits found at_k
    | told fetched => exact .told fetched
    | thrown asked_to => exact .thrown (grown asked_to)
  · intro caller' mem raised
    obtain ⟨asked_to, ceased⟩ := thrown caller' mem raised
    refine ⟨asked_to, fun u l here none_yet => ?_⟩
    obtain ⟨r, ceased⟩ := Option.ne_none_iff_exists'.mp (ceased u l here)
    cases none_yet.symm.trans (later.outcome ceased)
  · intro fetch' mem cancelled
    obtain ⟨u, found⟩ := List.getElem?_of_mem mem
    obtain ⟨fetch, there, is⟩ := back u fetch' found
    have old := List.mem_of_getElem? there
    rcases is with rfl | rfl
    · exact sound.honest fetch' old cancelled
    · exact honest fetch old cancelled

theorem Sound.settle (sound : Sound loop) (task : Nat) (r : Except Raised RepoTree) :
    Sound (step loop (.settle task r)) :=
  sound.touched (fun fetch => settle_asked fetch r) (fun _ _ => settle_ended)
    (fun fetch mem => settle_honest (sound.honest fetch mem)) (fun _ _ => Iff.rfl)
    (fun caller mem => ⟨caller, mem, rfl, rfl, id⟩) sound.thrown

/-- An answer is the outcome of the fetch, unless the caller was asked to cancel. -/
theorem Sound.answered {r : Except Raised RepoTree} {op : CacheOp} (sound : Sound loop)
    (mem : caller ∈ loop.callers) (answered : answer loop.globals caller op = some r) :
    caller.cancelled = true ∧ r = .error .cancelled ∨ loop.globals.outcome op.task = some r := by
  unfold answer at answered
  split at answered
  next raised =>
    cases answered
    exact .inl ⟨(sound.thrown _ mem raised).1, rfl⟩
  next => exact .inr answered

theorem fetched_of_outcome {fetch : Fetch} {r : Except Raised RepoTree}
    (found : g.fetches[t]? = some fetch) (same : key fetch.asked = k)
    (ended : g.outcome t = some r) : Fetched g k r :=
  ⟨fetch, List.mem_of_getElem? found, same, by simpa [Globals.outcome, found] using ended⟩

theorem Sound.resume (sound : Sound loop) (i : Nat) : Sound (step loop (.resume i)) := by
  obtain ⟨g, callers⟩ := loop
  simp only [step]
  split
  next asked cancelled thrown op k found =>
    have mem := List.mem_of_getElem? found
    have stands : Stands g (key asked) cancelled (.running op k) := sound.stands _ mem
    split
    next r given =>
      have source := sound.answered mem given
      cases stands with
      | @owns t fetch there same listed =>
          have ended : g.outcome t ≠ none := by
            rcases source with ⟨-, -⟩ | ended
            · unfold answer at given
              split at given
              next raised => exact (sound.thrown _ mem raised).2 t _ rfl
              next => exact fun never => by cases never.symm.trans given
            · exact fun never => by cases never.symm.trans ended
          rw [ofProc_keep]
          cases r with
          | ok tree =>
              have ceased : g.outcome t = some (.ok tree) := by
                rcases source with ⟨-, absurd⟩ | ceased
                · cases absurd
                · exact ceased
              have fetched := fetched_of_outcome there same ceased
              refine sound.ends found rfl ended listed rfl rfl (fun l held mem => ?_)
                (OrderedDict.length_shed _ _) (.told (fetched.later (.of_same rfl))) (by simp) rfl
              rcases OrderedDict.mem_insert (OrderedDict.mem_shed mem) with old | ⟨rfl, rfl⟩
              · exact sound.trees l held old
              · exact fetched
          | error e =>
              refine sound.ends found rfl ended listed rfl rfl sound.trees sound.bounded ?_
                (by simp) rfl
              rcases source with ⟨asked_to, is⟩ | ceased
              · cases is
                exact .thrown asked_to
              · exact .told ((fetched_of_outcome there same ceased).later (.of_same rfl))
      | @waits t fetch there same =>
          refine sound.takes found ?_ ?_ (by simp [Slot.ofProc, taken]) rfl
          · rcases source with ⟨asked_to, is⟩ | ceased
            · cases is
              exact .thrown asked_to
            · exact .told (fetched_of_outcome there same ceased)
          · rintro u ⟨caller, k, there, owned⟩
            cases found.symm.trans there
            cases owned
    next => exact sound
  next => exact sound

theorem Sound.cancel (sound : Sound loop) (i : Nat) : Sound (step loop (.cancel i)) := by
  obtain ⟨g, callers⟩ := loop
  simp only [step]
  split
  next asked cancelled thrown op k found =>
    have mem := List.mem_of_getElem? found
    have same : ∀ {thrown' : Bool}, ∀ caller' ∈
        callers.set i ⟨asked, true, thrown', .running op k⟩, ∃ caller ∈ callers,
          caller'.asked = caller.asked ∧ caller'.slot = caller.slot ∧
            (caller.cancelled = true → caller'.cancelled = true) := by
      intro thrown' caller' mem'
      rcases mem_set mem' with old | rfl
      · exact ⟨caller', old, rfl, rfl, id⟩
      · exact ⟨_, mem, rfl, rfl, fun _ => rfl⟩
    unfold requested
    split
    next task running =>
      refine sound.touched (fun _ => rfl) (fun _ _ ended => ended) (fun _ _ _ => rfl)
        (fun j t => owns_set_same found rfl) same fun caller' mem' raised => ?_
      rcases mem_set mem' with old | rfl
      · exact sound.thrown caller' old raised
      · exact ⟨rfl, (sound.thrown _ mem raised).2⟩
    next alone =>
      have still : g.setFetch 0 id = g := by simp [Globals.setFetch]
      rw [← still]
      refine sound.touched (fun _ => rfl) (fun _ _ ended => ended) sound.honest
        (fun j t => owns_set_same found rfl) same fun caller' mem' raised => ?_
      rcases mem_set mem' with old | rfl
      · exact sound.thrown caller' old raised
      · refine ⟨rfl, fun t k owned never => ?_⟩
        cases owned
        exact alone t rfl never
  next => exact sound

theorem Sound.step (sound : Sound loop) (e : Event) : Sound (step loop e) := by
  cases e with
  | call asked => exact sound.call asked
  | settle task r => exact sound.settle task r
  | resume i => exact sound.resume i
  | cancel i => exact sound.cancel i

/-! ## What a step leaves of fetches and callers -/

theorem fetches_cached (asked : Asked) (g : Globals) :
    (Slot.ofProc (cached asked g)).1.fetches = g.fetches ∨
      (Slot.ofProc (cached asked g)).1.fetches = g.fetches ++ [⟨asked, false, none⟩] := by
  rw [ofProc_cached]
  cases g.trees.get? (key asked) with
  | some tree => exact .inl rfl
  | none =>
      cases g.inflight.get? (key asked) with
      | none => exact .inr rfl
      | some t =>
          dsimp only
          rw [ofProc_joined]
          cases g.outcome t <;> exact .inl rfl

/-- A fetch is asked to cancel only with the caller that started it, and while it runs. -/
theorem step_fetches {e : Event} {u : Nat} {fetch' : Fetch} (sound : Sound loop)
    (found : (step loop e).globals.fetches[u]? = some fetch') :
    (∃ fetch, loop.globals.fetches[u]? = some fetch ∧ fetch'.asked = fetch.asked ∧
      (fetch'.cancelling = fetch.cancelling ∨
        ∃ i, e = .cancel i ∧ Owns loop.callers i u ∧ fetch.outcome = none)) ∨
    ∃ asked, e = .call asked ∧ fetch' = ⟨asked, false, none⟩ := by
  have unmoved : (step loop e).globals.fetches = loop.globals.fetches →
      ∃ fetch, loop.globals.fetches[u]? = some fetch ∧ fetch'.asked = fetch.asked ∧
        (fetch'.cancelling = fetch.cancelling ∨
          ∃ i, e = .cancel i ∧ Owns loop.callers i u ∧ fetch.outcome = none) := fun same =>
    ⟨fetch', same ▸ found, rfl, .inl rfl⟩
  cases e with
  | call asked =>
      rcases fetches_cached asked loop.globals with same | grown
      · exact .inl (unmoved same)
      · have found : (loop.globals.fetches ++ [⟨asked, false, none⟩])[u]? = some fetch' := by
          rw [← grown]
          exact found
        rcases Nat.lt_or_ge u loop.globals.fetches.length with lt | ge
        · rw [List.getElem?_append_left lt] at found
          exact .inl ⟨fetch', found, rfl, .inl rfl⟩
        · rw [List.getElem?_append_right ge] at found
          have is := List.mem_singleton.mp (List.mem_of_getElem? found)
          exact .inr ⟨asked, rfl, is⟩
  | settle task r =>
      simp only [step, Globals.setFetch, List.getElem?_modify] at found
      obtain ⟨fetch, there, is⟩ := Option.map_eq_some_iff.mp found
      refine .inl ⟨fetch, there, ?_⟩
      by_cases here : task = u
      · simp only [here, if_true] at is
        rw [← is]
        exact ⟨settle_asked fetch r, .inl (settle_cancelling fetch r)⟩
      · simp only [here, if_false] at is
        rw [← is]
        exact ⟨rfl, .inl rfl⟩
  | resume i =>
      refine .inl (unmoved ?_)
      simp only [step]
      split
      next asked cancelled thrown op k at_i =>
        split
        next r given =>
          have stands : Stands loop.globals (key asked) cancelled (.running op k) :=
            sound.stands _ (List.mem_of_getElem? at_i)
          cases stands with
          | owns =>
              rw [ofProc_keep]
              cases r <;> rfl
          | waits => rfl
        next => rfl
      next => rfl
  | cancel i =>
      simp only [step] at found unmoved
      split at found
      next asked cancelled thrown op k at_i =>
        unfold requested at found
        split at found
        next task running =>
          simp only [Globals.setFetch, List.getElem?_modify] at found
          obtain ⟨fetch, there, is⟩ := Option.map_eq_some_iff.mp found
          refine .inl ⟨fetch, there, ?_⟩
          by_cases here : task = u
          · subst here
            simp only [if_true] at is
            rw [← is]
            have unfinished : fetch.outcome = none := by
              simpa [Globals.outcome, CacheOp.task, there] using running
            exact ⟨rfl, .inr ⟨i, rfl, ⟨_, k, at_i, rfl⟩, unfinished⟩⟩
          · simp only [here, if_false] at is
            rw [← is]
            exact ⟨rfl, .inl rfl⟩
        next => exact .inl ⟨fetch', found, rfl, .inl rfl⟩
      next => exact .inl ⟨fetch', found, rfl, .inl rfl⟩

/-- A caller moves when it takes an answer, and is marked when it is asked to cancel. -/
theorem step_callers {e : Event} {caller' : Caller}
    (found : (step loop e).callers[j]? = some caller') :
    (∃ caller, loop.callers[j]? = some caller ∧ caller'.asked = caller.asked ∧
      (caller'.cancelled = caller.cancelled ∨ e = .cancel j ∧ caller'.cancelled = true) ∧
      (caller'.slot = caller.slot ∨ e = .resume j)) ∨
    ∃ asked, e = .call asked ∧
      caller' = ⟨asked, false, false, (Slot.ofProc (cached asked loop.globals)).2⟩ := by
  cases e with
  | call asked =>
      rcases Nat.lt_or_ge j loop.callers.length with lt | ge
      · have old : (step loop (.call asked)).callers[j]? = loop.callers[j]? :=
          List.getElem?_append_left lt
        exact .inl ⟨caller', old ▸ found, rfl, .inl rfl, .inl rfl⟩
      · have new := (List.getElem?_append_right ge).symm.trans found
        exact .inr ⟨asked, rfl, List.mem_singleton.mp (List.mem_of_getElem? new)⟩
  | settle task r => exact .inl ⟨caller', found, rfl, .inl rfl, .inl rfl⟩
  | resume i =>
      refine .inl ?_
      simp only [step] at found
      split at found
      next asked cancelled thrown op k at_i =>
        split at found
        next r given =>
          by_cases here : j = i
          · subst here
            rw [List.getElem?_set_self (List.getElem?_eq_some_iff.mp at_i).1] at found
            cases found
            exact ⟨_, at_i, rfl, .inl rfl, .inr rfl⟩
          · rw [List.getElem?_set_ne (Ne.symm here)] at found
            exact ⟨caller', found, rfl, .inl rfl, .inl rfl⟩
        next => exact ⟨caller', found, rfl, .inl rfl, .inl rfl⟩
      next => exact ⟨caller', found, rfl, .inl rfl, .inl rfl⟩
  | cancel i =>
      refine .inl ?_
      simp only [step] at found
      split at found
      next asked cancelled thrown op k at_i =>
        have lt := (List.getElem?_eq_some_iff.mp at_i).1
        have marked : ∀ {thrown' : Bool},
            (loop.callers.set i ⟨asked, true, thrown', .running op k⟩)[j]? = some caller' →
            ∃ caller, loop.callers[j]? = some caller ∧ caller'.asked = caller.asked ∧
              (caller'.cancelled = caller.cancelled ∨
                Event.cancel i = .cancel j ∧ caller'.cancelled = true) ∧
              (caller'.slot = caller.slot ∨ Event.cancel i = .resume j) := by
          intro thrown' found
          by_cases here : j = i
          · subst here
            rw [List.getElem?_set_self lt] at found
            cases found
            exact ⟨_, at_i, rfl, .inr ⟨rfl, rfl⟩, .inl rfl⟩
          · rw [List.getElem?_set_ne (Ne.symm here)] at found
            exact ⟨caller', found, rfl, .inl rfl, .inl rfl⟩
        unfold requested at found
        split at found
        · exact marked found
        · exact marked found
      next => exact ⟨caller', found, rfl, .inl rfl, .inl rfl⟩

end KuWarden.TreeCache
