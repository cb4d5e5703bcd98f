import KuWarden.Adapters.Exchanges
import KuWarden.Nodes.Push
import KuWarden.Process.Crowd

/-!
The pushes of one run against a platform that others use too.

An attempt is pushed by any number of tries. Each of them may fail after any request, whether
or not that took effect, or go on beside the tries that replaced it; what is lost is only its
answer. Once a try returned, the run may go on to the next attempt, which is built on what was
returned. Others add objects and move any branch anywhere, but leave the messages of the run
to it.
-/
namespace KuWarden.GitHub

open Process DataApi

/-- The pushes of a run: where they go, and the state Push is given in each attempt. -/
structure Plan where
  ref : RepoRef
  base : BranchRef
  branch : String
  given : Nat → FlowState
  numbered : ∀ n, (given n).pushAttempt = n

namespace Plan

variable (plan : Plan)

def message (n : Nat) : String := KuWarden.Push.commitMessage (plan.given n)

def edits (n : Nat) : List FileEdit :=
  (plan.given n).proposedEdits.map fun edit => ⟨edit.path, edit.content, edit.deleted⟩

/-- What the push of an attempt is given, on top of `parent`. -/
def push (attempt : Nat × Option String) : Push where
  base := plan.base
  branch := plan.branch
  message := plan.message attempt.1
  edits := plan.edits attempt.1
  parent := attempt.2

def exchange (attempt : Nat × Option String) : Exchange BranchRef :=
  pushChange plan.ref plan.base plan.branch (plan.message attempt.1) (plan.edits attempt.1)
    attempt.2

end Plan

abbrev Try := (Nat × Option String) × Proc Unit ApiOp ApiRep (Except PyError BranchRef)

structure Pushing where
  repository : Repository
  /-- What the attempts so far returned. -/
  returned : List String
  tries : List Try

/-- The commit an attempt is to be built on. -/
def Pushing.parent (c : Pushing) (n : Nat) : Option String := if n = 0 then none else c.returned[n - 1]?

variable (builder : TreeBuilder) (plan : Plan)

/-- A try takes the answer to its request. -/
inductive Acts : Pushing → Pushing → Prop
  | answer {c : Pushing} {i : Nat} {attempt : Nat × Option String} {s : Unit} {op : ApiOp}
      {k : ApiRep op → Unit → Proc Unit ApiOp ApiRep (Except PyError BranchRef)} {r : ApiRep op}
      {w : Repository} : c.tries[i]? = some (attempt, .await s op k) →
      Answers builder c.repository op r w →
      Acts c { c with repository := w, tries := c.tries.set i (attempt, k r ()) }

inductive Step : Pushing → Pushing → Prop
  | acts {c c' : Pushing} : Acts builder c c' → Step c c'
  /-- A try of an attempt begins, late ones of an earlier attempt included. -/
  | begins {c : Pushing} {n : Nat} : n ≤ c.returned.length →
      Step c { c with tries := c.tries ++ [((n, c.parent n), plan.exchange (n, c.parent n) ())] }
  /-- The run learns what a try of the last attempt returned. -/
  | returns {c : Pushing} {parent : Option String} {s : Unit} {ref : BranchRef} :
      ((c.returned.length, parent), .done s (.ok ref)) ∈ c.tries →
      Step c { c with returned := c.returned ++ [ref.commit] }
  /-- Others add objects and move branches. -/
  | foreign {c : Pushing} {w : Repository} : c.repository.Grows w → w.Closed →
      (∀ sha commit, w.commits sha = some commit → c.repository.commits sha = some commit ∨
        ∀ n, commit.message ≠ plan.message n) →
      Step c { c with repository := w }

/-- Whatever a run has pushed and others have done since it found the repository at `w`. -/
def Pushes (w : Repository) : Pushing → Prop :=
  Relation.ReflTransGen (Step builder plan) ⟨w, [], []⟩

/-- A repository that no message of the run is found in. -/
structure Unused (w : Repository) : Prop where
  closed : w.Closed
  messages : ∀ sha commit, w.commits sha = some commit → ∀ n, commit.message ≠ plan.message n

/-! ## Messages -/

theorem Plan.message_inj {plan : Plan} {m n : Nat} (same : plan.message m = plan.message n) :
    m = n := by
  have attempts := KuWarden.Push.commit_message_attempt same
  rw [plan.numbered, plan.numbered] at attempts
  exact Int.ofNat_inj.mp attempts

/-! ## What a run and others keep -/

section
variable {builder : TreeBuilder} {plan : Plan} {w w' : Repository} {n : Nat}

/-- What a commit of attempt `n` is. -/
structure Sound (builder : TreeBuilder) (plan : Plan) (w : Repository) (n : Nat) (sha : String)
    (commit : Commit) : Prop where
  named : sha ≠ ""
  tree : Built builder w plan.base.commit (plan.edits n) commit.tree
  parent : ∃ p, commit.parents = [p] ∧ (n = 0 → p = plan.base.commit) ∧
    ∀ m, n = m + 1 → Bears w (plan.message m) p

/-- Every commit with a message of the run is what its attempt was to push. -/
def AllSound (builder : TreeBuilder) (plan : Plan) (w : Repository) : Prop :=
  ∀ n sha commit, w.commits sha = some commit → commit.message = plan.message n →
    Sound builder plan w n sha commit

/-- No commit of the run is in the history of the base. -/
def Apart (plan : Plan) (w : Repository) : Prop :=
  ∀ y, w.Descends plan.base.commit y → ∀ n, ¬ Bears w (plan.message n) y

/-- What an attempt is given to build on. -/
structure Grounded (plan : Plan) (w : Repository) (attempt : Nat × Option String) : Prop where
  first : attempt.1 = 0 → attempt.2 = none
  later : ∀ m, attempt.1 = m + 1 → ∃ x, attempt.2 = some x ∧ Bears w (plan.message m) x

def Leaves (builder : TreeBuilder) (plan : Plan) (attempt : Nat × Option String)
    (r : Except PyError BranchRef) : Assertion Unit Repository ApiOp ApiRep Unit :=
  fun s w h => Meant builder (plan.push attempt) s w h ∧
    ∀ ref, r = .ok ref → Bears w (plan.message attempt.1) ref.commit

structure Kept (builder : TreeBuilder) (plan : Plan) (c : Pushing) : Prop where
  closed : c.repository.Closed
  sound : AllSound builder plan c.repository
  apart : Apart plan c.repository
  returned : ∀ n x, c.returned[n]? = some x → Bears c.repository (plan.message n) x
  grounded : ∀ t ∈ c.tries, Grounded plan c.repository t.1
  owing : ∀ t ∈ c.tries, Owing (platform builder) (fun attempt => Meant builder (plan.push attempt))
    (Leaves builder plan) c.repository t

theorem Sound.mono {sha : String} {commit : Commit} (grows : w.Grows w')
    (sound : Sound builder plan w n sha commit) : Sound builder plan w' n sha commit := by
  obtain ⟨p, parents, first, later⟩ := sound.parent
  exact ⟨sound.named, sound.tree.mono grows, p, parents, first,
    fun m is => (later m is).mono grows⟩

theorem Grounded.mono {attempt : Nat × Option String} (grows : w.Grows w')
    (grounded : Grounded plan w attempt) : Grounded plan w' attempt := by
  refine ⟨grounded.first, fun m is => ?_⟩
  obtain ⟨x, given, bears⟩ := grounded.later m is
  exact ⟨x, given, bears.mono grows⟩

theorem Leaves.mono {attempt : Nat × Option String} {r : Except PyError BranchRef} {s : Unit}
    {h : History ApiOp ApiRep Unit} (grows : w.Grows w')
    (leaves : Leaves builder plan attempt r s w h) : Leaves builder plan attempt r s w' h :=
  ⟨leaves.1.mono grows, fun ref is => (leaves.2 ref is).mono grows⟩

theorem commits_of_effect {op : ApiOp} {v : ApiValue op} (effect : Effect builder w op v w') :
    w'.commits = w.commits ∨ ∃ message tree parents sha,
      op = .postCommit message tree parents ∧ Names w.commits sha ⟨tree, parents, message⟩ ∧
      (∀ parent ∈ parents, (w.commits parent).isSome) ∧
      w'.commits = Function.update w.commits sha (some ⟨tree, parents, message⟩) := by
  cases effect with
  | postCommit names there => exact .inr ⟨_, _, _, _, rfl, names, there, rfl⟩
  | _ => exact .inl rfl

theorem commits_of_answers {op : ApiOp} {r : ApiRep op} (answers : Answers builder w op r w') :
    w'.commits = w.commits ∨ ∃ message tree parents sha,
      op = .postCommit message tree parents ∧ Names w.commits sha ⟨tree, parents, message⟩ ∧
      (∀ parent ∈ parents, (w.commits parent).isSome) ∧
      w'.commits = Function.update w.commits sha (some ⟨tree, parents, message⟩) := by
  cases answers with
  | ok effect | lost effect => exact commits_of_effect effect
  | refused => exact .inl rfl

theorem Grounded.expected {attempt : Nat × Option String} (grounded : Grounded plan w attempt) :
    (attempt.1 = 0 → expected plan.base attempt.2 = plan.base.commit) ∧
      ∀ m, attempt.1 = m + 1 → Bears w (plan.message m) (expected plan.base attempt.2) := by
  refine ⟨fun first => ?_, fun m later => ?_⟩
  · rw [grounded.first first]
    rfl
  · obtain ⟨x, given, bears⟩ := grounded.later m later
    have some : nonEmpty (some x) = some x := nonEmpty_eq_some.mpr ⟨rfl, bears.1⟩
    rw [given, GitHub.expected, some]
    exact bears

/-- What a try may ask keeps the commits of the run sound. -/
theorem sound_answers {attempt : Nat × Option String} {op : ApiOp} {r : ApiRep op}
    (sound : AllSound builder plan w) (may : May builder (plan.push attempt) w op)
    (grounded : Grounded plan w attempt) (answers : Answers builder w op r w') :
    AllSound builder plan w' := by
  have grows := answers.grows
  intro n sha commit known message
  rcases commits_of_answers answers with same | ⟨m, tree, parents, sha', rfl, names, -, same⟩
  · rw [same] at known
    exact (sound n sha commit known message).mono grows
  · rw [same] at known
    by_cases here : sha = sha'
    · subst here
      rw [Function.update_self] at known
      cases known
      obtain ⟨is, parents_are, built⟩ := may
      have number : attempt.1 = n := plan.message_inj (is.symm.trans message)
      subst number
      obtain ⟨first, later⟩ := grounded.expected
      exact ⟨names.1, built.mono grows, _, parents_are, first, fun m is => (later m is).mono grows⟩
    · rw [Function.update_of_ne here] at known
      exact (sound n sha commit known message).mono grows

theorem closed_answers {op : ApiOp} {r : ApiRep op} (closed : w.Closed)
    (answers : Answers builder w op r w') : w'.Closed := by
  have grows := answers.grows
  have there : ∀ {x : String}, (w.commits x).isSome → (w'.commits x).isSome := by
    intro x is
    obtain ⟨commit, known⟩ := Option.isSome_iff_exists.mp is
    rw [grows.commits known]
    rfl
  intro sha commit known parent mem
  rcases commits_of_answers answers with same | ⟨m, tree, parents, sha', -, -, given, same⟩
  · rw [same] at known
    exact there (closed sha commit known parent mem)
  · rw [same] at known
    by_cases here : sha = sha'
    · subst here
      rw [Function.update_self] at known
      cases known
      exact there (given parent mem)
    · rw [Function.update_of_ne here] at known
      exact there (closed sha commit known parent mem)

/-- The history of a commit that is there does not change. -/
theorem descends_known {x y : String} (closed : w.Closed) (grows : w.Grows w')
    (known : (w.commits x).isSome) (descends : w'.Descends x y) :
    w.Descends x y ∧ (w.commits y).isSome := by
  induction descends with
  | refl => exact ⟨.refl, known⟩
  | tail _ parent ih =>
      obtain ⟨before, there⟩ := ih
      obtain ⟨commit, found⟩ := Option.isSome_iff_exists.mp there
      obtain ⟨commit', found', mem⟩ := parent
      cases (grows.commits found).symm.trans found'
      exact ⟨before.tail ⟨commit, found, mem⟩, closed _ _ found _ mem⟩

/-- A commit of the run is made only where the base is there, so none is in its history. -/
theorem apart_grows (closed : w.Closed) (grows : w.Grows w') (apart : Apart plan w)
    (sound : AllSound builder plan w)
    (fresh : ∀ sha commit n, w'.commits sha = some commit → commit.message = plan.message n →
      w.commits sha = some commit ∨ (w.commits plan.base.commit).isSome) : Apart plan w' := by
  rintro y descends n ⟨named, commit, known, message⟩
  by_cases base : (w.commits plan.base.commit).isSome
  · obtain ⟨before, there⟩ := descends_known closed grows base descends
    obtain ⟨commit', found⟩ := Option.isSome_iff_exists.mp there
    cases (grows.commits found).symm.trans known
    exact apart y before n ⟨named, commit, found, message⟩
  · rcases fresh y commit n known message with old | there
    · obtain ⟨b, _, _, _, found, -⟩ := (sound n y commit old message).tree
      exact base (by simp [found])
    · exact base there

theorem apart_answers {attempt : Nat × Option String} {op : ApiOp} {r : ApiRep op}
    (closed : w.Closed) (apart : Apart plan w) (sound : AllSound builder plan w)
    (may : May builder (plan.push attempt) w op) (answers : Answers builder w op r w') :
    Apart plan w' := by
  refine apart_grows closed answers.grows apart sound fun sha commit n known _ => ?_
  rcases commits_of_answers answers with same | ⟨m, tree, parents, sha', rfl, -, -, -⟩
  · rw [same] at known
    exact .inl known
  · obtain ⟨-, -, b, _, _, _, found, -⟩ := may
    exact .inr (Option.isSome_iff_exists.mpr ⟨b, found⟩)

theorem kept_unused (unused : Unused plan w) : Kept builder plan ⟨w, [], []⟩ where
  closed := unused.closed
  sound n sha commit known message := absurd message (unused.messages sha commit known n)
  apart := by
    rintro y - n ⟨-, commit, known, message⟩
    exact unused.messages y commit known n message
  returned n x found := by simp at found
  grounded t mem := by cases mem
  owing t mem := by cases mem

theorem Kept.parent {c : Pushing} (kept : Kept builder plan c) (early : n ≤ c.returned.length) :
    Grounded plan c.repository (n, c.parent n) := by
  refine ⟨fun first => if_pos first, fun m is => ?_⟩
  obtain rfl : n = m + 1 := is
  have known : c.returned[m]? = some c.returned[m] := List.getElem?_eq_getElem (by omega)
  exact ⟨_, known, kept.returned m _ known⟩

theorem exchange_owing {attempt : Nat × Option String} :
    Owing (platform builder) (fun attempt => Meant builder (plan.push attempt))
      (Leaves builder plan) w (attempt, plan.exchange attempt ()) := by
  refine Owing.of_wp (h := []) (Task.wp_mono (push_change_does (p := plan.push attempt) [] ?_) ?_)
  · intro op mem
    cases mem
  · rintro r s w' h ⟨meant, -, result⟩
    exact ⟨meant, result⟩

/-- What the repository gains, every try bears with. -/
theorem Owing.grows {t : Try} (grows : w.Grows w')
    (owing : Owing (platform builder) (fun attempt => Meant builder (plan.push attempt))
      (Leaves builder plan) w t) :
    Owing (platform builder) (fun attempt => Meant builder (plan.push attempt))
      (Leaves builder plan) w' t :=
  owing.env (fun _ => ⟨(), grows⟩) fun _ _ _ _ leaves => leaves.mono grows

/-- The request a try waits for is one it may make. -/
theorem Kept.may {c : Pushing} {attempt : Nat × Option String} {s : Unit} {op : ApiOp}
    {k : ApiRep op → Unit → Proc Unit ApiOp ApiRep (Except PyError BranchRef)}
    (kept : Kept builder plan c) (found : (attempt, .await s op k) ∈ c.tries) :
    May builder (plan.push attempt) c.repository op := by
  obtain ⟨h, meant, asked⟩ := (kept.owing _ found).asks
  exact meant op asked

theorem kept_acts {c c' : Pushing} (kept : Kept builder plan c) (acts : Acts builder c c') :
    Kept builder plan c' := by
  cases acts with
  | @answer i attempt s op k r w found answers =>
      have mem := List.mem_of_getElem? found
      have may := kept.may mem
      have grows := answers.grows
      have grounded := kept.grounded _ mem
      refine ⟨closed_answers kept.closed answers, sound_answers kept.sound may grounded answers,
        apart_answers kept.closed kept.apart kept.sound may answers,
        fun n x known => (kept.returned n x known).mono grows, ?_, ?_⟩
      · intro t set
        rcases List.mem_or_eq_of_mem_set set with old | rfl
        · exact (kept.grounded t old).mono grows
        · exact grounded.mono grows
      · exact Owing.each_set kept.owing found answers (fun _ => ⟨(), grows⟩)
          fun _ _ _ _ leaves => leaves.mono grows

theorem kept_step {c c' : Pushing} (kept : Kept builder plan c) (step : Step builder plan c c') :
    Kept builder plan c' := by
  cases step with
  | acts acts => exact kept_acts kept acts
  | @begins n early =>
      refine ⟨kept.closed, kept.sound, kept.apart, kept.returned, ?_, ?_⟩
      · intro t mem
        rcases List.mem_append.mp mem with old | new
        · exact kept.grounded t old
        · cases List.mem_singleton.mp new
          exact kept.parent early
      · intro t mem
        rcases List.mem_append.mp mem with old | new
        · exact kept.owing t old
        · cases List.mem_singleton.mp new
          exact exchange_owing
  | @returns parent s ref found =>
      refine ⟨kept.closed, kept.sound, kept.apart, fun n x known => ?_, kept.grounded, kept.owing⟩
      rcases Nat.lt_trichotomy n c.returned.length with lt | rfl | gt
      · rw [List.getElem?_append_left lt] at known
        exact kept.returned n x known
      · rw [List.getElem?_concat_length] at known
        cases known
        obtain ⟨h, -, result⟩ := (kept.owing _ found).done
        exact result ref rfl
      · rw [List.getElem?_eq_none (by simp; omega)] at known
        cases known
  | @foreign w grows closed others =>
      refine ⟨closed, fun n sha commit known message => ?_, ?_,
        fun n x known => (kept.returned n x known).mono grows,
        fun t mem => (kept.grounded t mem).mono grows,
        fun t mem => Owing.grows grows (kept.owing t mem)⟩
      · rcases others sha commit known with old | other
        · exact (kept.sound n sha commit old message).mono grows
        · exact absurd message (other n)
      · refine apart_grows kept.closed grows kept.apart kept.sound
          fun sha commit n known message => ?_
        rcases others sha commit known with old | other
        · exact .inl old
        · exact absurd message (other n)

theorem kept_of_pushes {c : Pushing} (unused : Unused plan w) (run : Pushes builder plan w c) :
    Kept builder plan c := by
  induction run with
  | refl => exact kept_unused unused
  | tail _ step ih => exact kept_step ih step

/-! ## What the branch carries -/

/-- The commits from `tip` down to `base`, each the only parent of the one before. -/
def OnTop (w : Repository) (base : String) : String → List Commit → Prop
  | tip, [] => tip = base
  | tip, commit :: rest => w.commits tip = some commit ∧
      ∃ parent, commit.parents = [parent] ∧ OnTop w base parent rest

/-- A commit of the run stands on one commit for each earlier attempt, in order, down to the
pinned base. -/
theorem stack_of_bears {tip : String} (sound : AllSound builder plan w)
    (bears : Bears w (plan.message n) tip) : ∃ stack, OnTop w plan.base.commit tip stack ∧
      List.Forall₂ (fun i commit => commit.message = plan.message i ∧
        Built builder w plan.base.commit (plan.edits i) commit.tree)
        (List.range (n + 1)).reverse stack := by
  induction n generalizing tip with
  | zero =>
      obtain ⟨-, commit, known, message⟩ := bears
      have here := sound 0 tip commit known message
      obtain ⟨p, parents, first, -⟩ := here.parent
      exact ⟨[commit], ⟨known, p, parents, first rfl⟩, .cons ⟨message, here.tree⟩ .nil⟩
  | succ n ih =>
      obtain ⟨-, commit, known, message⟩ := bears
      have here := sound (n + 1) tip commit known message
      obtain ⟨p, parents, -, later⟩ := here.parent
      obtain ⟨stack, below, each⟩ := ih (later n rfl)
      refine ⟨commit :: stack, ⟨known, p, parents, below⟩, ?_⟩
      rw [List.range_succ, List.reverse_append, List.reverse_singleton, List.singleton_append]
      exact .cons ⟨message, here.tree⟩ each

/-- Below a commit of the run lie commits of earlier attempts, and the history of the base. -/
theorem descends_bears {x y : String} (sound : AllSound builder plan w)
    (bears : Bears w (plan.message n) x) (descends : w.Descends x y) :
    x = y ∨ (∃ m < n, Bears w (plan.message m) y) ∨ w.Descends plan.base.commit y := by
  induction n using Nat.strongRecOn generalizing x with
  | ind n ih =>
      rcases Relation.ReflTransGen.cases_head descends with same | ⟨p, ⟨commit, known, mem⟩, rest⟩
      · exact .inl same
      · obtain ⟨-, commit', known', message⟩ := bears
        cases known.symm.trans known'
        obtain ⟨p', parents, first, later⟩ := (sound n x commit known message).parent
        rw [parents] at mem
        cases List.mem_singleton.mp mem
        cases n with
        | zero =>
            rw [first rfl] at rest
            exact .inr (.inr rest)
        | succ m =>
            rcases ih m (Nat.lt_succ_self m) (later m rfl) rest with rfl | ⟨i, lt, below⟩ | base
            · exact .inr (.inl ⟨m, Nat.lt_succ_self m, later m rfl⟩)
            · exact .inr (.inl ⟨i, by omega, below⟩)
            · exact .inr (.inr base)

/-- What is true of the repository wherever the pushes of a run stand. -/
structure Carried (builder : TreeBuilder) (plan : Plan) (w : Repository) : Prop where
  /-- A tip that the run created carries one commit for each attempt so far, in the order of
  the attempts, on top of the pinned base, and each has the tree of the base with the edits
  of its attempt. -/
  stack : ∀ n tip, Bears w (plan.message n) tip → ∃ stack, OnTop w plan.base.commit tip stack ∧
    List.Forall₂ (fun i commit => commit.message = plan.message i ∧
      Built builder w plan.base.commit (plan.edits i) commit.tree)
      (List.range (n + 1)).reverse stack
  /-- Whatever others put on top, no line of history has two commits of an attempt, or an
  attempt on top of a later one. -/
  order : ∀ m n x y, Bears w (plan.message n) x → Bears w (plan.message m) y →
    w.Descends x y → x = y ∨ m < n

/-- What a try leaves of the branches: all but its own, and that one it only moves to a commit of
the run, forward, and off a commit of the run or of the history of the base. -/
structure Guarded (plan : Plan) (w w' : Repository) : Prop where
  others : ∀ branch, branch ≠ plan.branch → w'.heads branch = w.heads branch
  tip : ∀ old, w.heads plan.branch = some old → w'.heads plan.branch = some old ∨
    (∃ n new, w'.heads plan.branch = some new ∧ Bears w (plan.message n) new ∧
      w.Descends new old) ∧
    ((∃ m, Bears w (plan.message m) old) ∨ w.Descends plan.base.commit old)

theorem carried_of_kept {c : Pushing} (kept : Kept builder plan c) :
    Carried builder plan c.repository where
  stack _ _ bears := stack_of_bears kept.sound bears
  order m n x y upper lower descends := by
    rcases descends_bears kept.sound upper descends with same | ⟨i, lt, below⟩ | base
    · exact .inl same
    · obtain ⟨-, commit, known, message⟩ := lower
      obtain ⟨-, commit', known', message'⟩ := below
      cases known.symm.trans known'
      have same : m = i := plan.message_inj (message.symm.trans message')
      exact .inr (same ▸ lt)
    · exact absurd lower (kept.apart y base m)

theorem guarded_effect {attempt : Nat × Option String} {op : ApiOp} {v : ApiValue op}
    (sound : AllSound builder plan w) (may : May builder (plan.push attempt) w op)
    (effect : Effect builder w op v w') : Guarded plan w w' := by
  cases effect with
  | @postRef branch sha absent =>
      obtain ⟨same, -⟩ := may
      have branch_is : branch = plan.branch := (String.append_right_inj _).mp same
      subst branch_is
      refine ⟨fun other ne => Function.update_of_ne ne .., fun old known => ?_⟩
      rw [absent] at known
      cases known
  | @patchRef branch old sha force there descends =>
      obtain ⟨rfl, rfl, bears⟩ := may
      refine ⟨fun other ne => Function.update_of_ne ne .., fun old' known => .inr ?_⟩
      cases there.symm.trans known
      have forward : w.Descends sha old := by simpa using descends
      refine ⟨⟨attempt.1, sha, Function.update_self .., bears, forward⟩, ?_⟩
      rcases descends_bears sound bears forward with rfl | ⟨m, -, below⟩ | base
      · exact .inl ⟨_, bears⟩
      · exact .inl ⟨m, below⟩
      · exact .inr base
  | _ => exact ⟨fun _ _ => rfl, fun _ known => .inl known⟩

theorem guarded_acts {c c' : Pushing} (kept : Kept builder plan c) (acts : Acts builder c c') :
    Guarded plan c.repository c'.repository := by
  cases acts with
  | answer found answers =>
      have may := kept.may (List.mem_of_getElem? found)
      cases answers with
      | ok effect | lost effect => exact guarded_effect kept.sound may effect
      | refused => exact ⟨fun _ _ => rfl, fun _ known => .inl known⟩

/-- Whatever the tries and the others do, in any order. -/
theorem branch_carries {c : Pushing} (unused : Unused plan w) (run : Pushes builder plan w c) :
    Carried builder plan c.repository ∧
      ∀ c', Acts builder c c' → Guarded plan c.repository c'.repository :=
  have kept := kept_of_pushes unused run
  ⟨carried_of_kept kept, fun _ acts => guarded_acts kept acts⟩

/-! ## A try that nobody disturbs -/

/-- The platform while nobody else uses it. -/
def alone (builder : TreeBuilder) : System Unit Repository ApiOp ApiRep Empty where
  serve _ w op r _ w' := Answers builder w op r w'
  env _ _ _ _ _ := False

/-- Undisturbed, an exchange may return `a` and leave `w'`. -/
def Returns {α : Type} (builder : TreeBuilder) (w : Repository) (t : Exchange α)
    (w' : Repository) (a : α) : Prop :=
  ∀ (β : Type) (f : α → Exchange β) (h : History ApiOp ApiRep Empty), ∃ h',
    (alone builder).Reaches (.launch ((t >>= f) ()) w h) (.launch (f a ()) w' h')

variable {α β : Type} {w₁ w₂ : Repository} {a : α} {b : β}

theorem returns_pure : Returns builder w (pure a : Exchange α) w a :=
  fun _ _ h => ⟨h, .refl⟩

theorem returns_bind {t : Exchange α} {f : α → Exchange β} (ht : Returns builder w t w₁ a)
    (hf : Returns builder w₁ (f a) w₂ b) : Returns builder w (t >>= f) w₂ b := by
  intro γ g h
  rw [Task.bind_assoc]
  obtain ⟨h₁, first⟩ := ht γ (fun a => f a >>= g) h
  obtain ⟨h₂, rest⟩ := hf γ g h₁
  exact ⟨h₂, first.trans rest⟩

theorem returns_call {op : ApiOp} {r : ApiRep op} (answers : Answers builder w op r w₁) :
    Returns builder w (Task.call op) w₁ r :=
  fun _ _ _ => ⟨_, .single (.reply op _ _ r answers)⟩

theorem returns_request {op : ApiOp} {v : ApiValue op} (effect : Effect builder w op v w₁) :
    Returns builder w (request op) w₁ v :=
  have answered : Returns builder w₁ (Task.ofExcept (.ok v)) w₁ v := returns_pure
  returns_bind (returns_call (.ok effect)) answered

theorem Returns.before {t : Exchange α} {f : α → Exchange β}
    {p : Proc Unit ApiOp ApiRep (Except PyError β)} (ht : Returns builder w t w₁ a)
    (rest : ∀ h, ∃ h', (alone builder).Reaches (.launch (f a ()) w₁ h) (.launch p w₂ h'))
    (h : History ApiOp ApiRep Empty) :
    ∃ h', (alone builder).Reaches (.launch ((t >>= f) ()) w h) (.launch p w₂ h') := by
  obtain ⟨h₁, first⟩ := ht β f h
  obtain ⟨h₂, later⟩ := rest h₁
  exact ⟨h₂, first.trans later⟩

/-- A handler waits behind what it guards. -/
theorem handle_reaches {t : Exchange α} {handler : PyError → Exchange α}
    {p : Proc Unit ApiOp ApiRep (Except PyError α)} {h h₁ : History ApiOp ApiRep Empty}
    (reached : (alone builder).Reaches (.launch (t ()) w h) (.launch p w₁ h₁)) :
    ∃ k, (alone builder).Reaches (.launch ((t.handle handler) ()) w h)
      (.launch (p.bind k) w₁ h₁) := by
  let k : Except PyError α → Unit → Proc Unit ApiOp ApiRep (Except PyError α) := fun r s =>
    match r with
    | .ok a => .done s (.ok a)
    | .error e => handler e s
  have same : t.handle handler () = (t ()).bind k := by
    show (t ()).bind _ = (t ()).bind k
    congr 1
    funext r s
    cases r <;> rfl
  have lifted := System.Reaches.andThen reached k
  rw [Config.launch_andThen, Config.launch_andThen] at lifted
  exact ⟨k, same ▸ lifted⟩

theorem proc_launch {p : Proc Unit ApiOp ApiRep (Except PyError BranchRef)}
    {h : History ApiOp ApiRep Empty} : (Config.launch p w h).proc = p := by
  cases p <;> rfl

theorem world_launch {p : Proc Unit ApiOp ApiRep (Except PyError BranchRef)}
    {h : History ApiOp ApiRep Empty} : (Config.launch p w h).world = w := by
  cases p <;> rfl

/-- An undisturbed try, as the crowd sees it. -/
theorem pushes_alone {c : Pushing} {i : Nat} {attempt : Nat × Option String}
    {d d' : Config Unit Repository ApiOp ApiRep Empty (Except PyError BranchRef)}
    (run : (alone builder).Reaches d d') (found : c.tries[i]? = some (attempt, d.proc))
    (here : c.repository = d.world) : ∃ c', Relation.ReflTransGen (Acts builder) c c' ∧
      c'.tries[i]? = some (attempt, d'.proc) ∧ c'.repository = d'.world := by
  induction run with
  | refl => exact ⟨c, .refl, found, here⟩
  | tail _ step ih =>
      obtain ⟨c', before, at_i, there⟩ := ih
      cases step with
      | env _ _ _ moved => exact moved.elim
      | @reply s s' w w' op k h r answers =>
          have answered : Answers builder c'.repository op r w' := by
            rw [there]
            exact answers
          refine ⟨_, before.tail (.answer at_i answered), ?_, ?_⟩
          · obtain ⟨lt, -⟩ := List.getElem?_eq_some_iff.mp at_i
            show (c'.tries.set i _)[i]? = _
            rw [List.getElem?_set_self lt]
            cases k r s' <;> rfl
          · cases k r s' <;> rfl

theorem pushes_acts {c c' : Pushing} (run : Pushes builder plan w c)
    (acts : Relation.ReflTransGen (Acts builder) c c') : Pushes builder plan w c' := by
  induction acts with
  | refl => exact run
  | tail _ act ih => exact ih.tail (.acts act)

/-! ## A branch that stands at the base -/

def shopRef : RepoRef := { host := "github.com", org := "acme", repo := "shop" }

/-- Every attempt adds one file. -/
def shopPlan : Plan where
  ref := shopRef
  base := ⟨"main", "ba5e"⟩
  branch := "kuwarden/shop-1"
  given n := { (default : FlowState) with
    pushAttempt := n
    proposedEdits := [{ path := "sort.py", content := "", deleted := false }] }
  numbered _ := rfl

def emptyTree : FileTree where
  items := []
  distinct := List.nodup_nil
  formed _ mem := by cases mem
  clear _ mem := by cases mem

/-- Somebody has created the branch of the run where its base stands. -/
def claimed : Repository where
  blobs _ := none
  trees := Function.update (fun _ => none) "t0" (some emptyTree)
  commits := Function.update (fun _ => none) "ba5e" (some ⟨"t0", [], "root"⟩)
  heads := Function.update (fun _ => none) "kuwarden/shop-1" (some "ba5e")

theorem claimed_known {sha : String} {commit : Commit}
    (known : claimed.commits sha = some commit) : sha = "ba5e" ∧ commit = ⟨"t0", [], "root"⟩ := by
  unfold claimed at known
  dsimp only at known
  rw [Function.update_apply] at known
  split_ifs at known with here
  cases known
  exact ⟨here, rfl⟩

theorem message_ne_root (plan : Plan) (n : Nat) : plan.message n ≠ "root" := by
  intro same
  obtain ⟨before, ends⟩ := KuWarden.Push.commit_message_ends (plan.given n)
  have mem : '\n' ∈ "root".toList := by
    rw [show "root" = KuWarden.Push.commitMessage (plan.given n) from same.symm, ends]
    simp
  revert mem
  decide

theorem claimed_unused : Unused shopPlan claimed where
  closed := by
    intro sha commit known parent mem
    obtain ⟨-, rfl⟩ := claimed_known known
    cases mem
  messages := by
    intro sha commit known n message
    obtain ⟨-, rfl⟩ := claimed_known known
    exact message_ne_root shopPlan n message.symm

/-- What the first push stores before it moves the branch. -/
theorem commit_change_claimed : ∃ w, Returns .strict claimed
    (commitChange shopPlan.base (shopPlan.message 0) (shopPlan.edits 0) "ba5e") w "c1" ∧
      w.heads = claimed.heads ∧ w.commits = Function.update claimed.commits "c1"
        (some ⟨"t1", ["ba5e"], shopPlan.message 0⟩) := by
  let entries : List TreeEntry := [⟨lstrip "sort.py", "100644", "blob", some "b1"⟩]
  obtain ⟨t, plus⟩ := Option.isSome_iff_exists.mp
    (show (TreeBuilder.strict.plus emptyTree entries).isSome = true by decide +kernel)
  let w₁ : Repository := { claimed with blobs := Function.update claimed.blobs "b1" (some []) }
  let w₂ : Repository := { w₁ with trees := Function.update w₁.trees "t1" (some t) }
  have known : claimed.commits "ba5e" = some ⟨"t0", [], "root"⟩ := by simp [claimed]
  have stored : w₁.trees "t0" = some emptyTree := by simp [w₁, claimed]
  have free : w₁.trees "t1" = none := by simp [w₁, claimed]
  have unmade : w₂.commits "c1" = none := by simp [w₂, w₁, claimed]
  have read : Returns .strict claimed (request (.getCommit "ba5e")) claimed ⟨some "t0", "root"⟩ :=
    returns_request (.getCommit known)
  have posted : Returns .strict claimed (treeEntries (shopPlan.edits 0)) w₁ entries := by
    have blob : Returns .strict claimed (blobSha ⟨"sort.py", "", false⟩) w₁ (some "b1") :=
      returns_bind (returns_request (.postBlob (Base64.b64decode_b64encode _)
        ⟨by decide, .inl rfl⟩)) returns_pure
    exact returns_bind blob (returns_bind returns_pure returns_pure)
  have made : Returns .strict w₁ (request (.postTree "t0" entries)) w₂ "t1" :=
    returns_request (.postTree stored plus ⟨by decide, .inl free⟩)
  refine ⟨{ w₂ with commits := Function.update w₂.commits "c1" _ }, returns_bind read
    (returns_bind posted (returns_bind made (returns_request (.postCommit ⟨by decide,
      .inl unmade⟩ ?_)))), rfl, rfl⟩
  intro parent mem
  cases List.mem_singleton.mp mem
  rw [show w₂.commits "ba5e" = _ from known]
  rfl

def firstTry : Pushing := ⟨claimed, [], [((0, none), shopPlan.exchange (0, none) ())]⟩

/-- The first push has stored its commit, and is about to move the branch. -/
theorem first_push : ∃ c k, Pushes .strict shopPlan claimed c ∧
    c.tries[0]? = some ((0, none), .await () (.patchRef shopPlan.branch "c1" false) k) ∧
    c.repository.heads = claimed.heads ∧ c.repository.commits =
      Function.update claimed.commits "c1" (some ⟨"t1", ["ba5e"], shopPlan.message 0⟩) := by
  obtain ⟨w, changed, heads, commits⟩ := commit_change_claimed
  have tip : claimed.heads "kuwarden/shop-1" = some "ba5e" := by simp [claimed]
  have known : claimed.commits "ba5e" = some ⟨"t0", [], "root"⟩ := by simp [claimed]
  -- Up to the request that moves the branch.
  let existing : Option BranchRef := some ⟨shopPlan.branch, "ba5e"⟩
  let moves : Exchange BranchRef := do
    moveBranch shopPlan.branch "c1" existing
    return ⟨shopPlan.branch, "c1"⟩
  have found : Returns .strict claimed (branchTip shopPlan.branch) claimed existing :=
    returns_bind (returns_call (.ok (.getRef tip))) returns_pure
  have fresh : Returns .strict claimed
      (landed shopPlan.branch (shopPlan.message 0) "ba5e" existing) claimed none := by
    refine returns_bind (returns_bind (returns_request (.getCommit known)) returns_pure) ?_
    rw [if_neg (message_ne_root shopPlan 0).symm, if_neg (by simp)]
    exact returns_pure
  have asked : Effect .strict claimed (.client .scmWriteBranch) () claimed := .client
  obtain ⟨h, reached⟩ : ∃ h, (alone .strict).Reaches (.launch (push shopPlan.base shopPlan.branch
      (shopPlan.message 0) (shopPlan.edits 0) none ()) claimed []) (.launch (moves ()) w h) :=
    (returns_request asked).before (fun h => found.before (fun h => fresh.before (fun h =>
      changed.before (fun h => ⟨h, .refl⟩) h) h) h) []
  have begun : Pushes .strict shopPlan claimed firstTry := .single (.begins (Nat.zero_le _))
  obtain ⟨k, handled⟩ : ∃ k, (alone .strict).Reaches
      (.launch (shopPlan.exchange (0, none) ()) claimed [])
      (.launch ((moves ()).bind k) w h) := by
    unfold Plan.exchange pushChange
    rw [if_neg (by simp [Plan.edits, shopPlan])]
    exact handle_reaches reached
  have at_start : firstTry.tries[0]? = some ((0, none), (Config.launch
      (shopPlan.exchange (0, none) ()) claimed ([] : History ApiOp ApiRep Empty)).proc) := by
    rw [proc_launch]
    rfl
  obtain ⟨c, acts, at_0, here⟩ := pushes_alone handled at_start world_launch.symm
  rw [proc_launch] at at_0
  rw [world_launch] at here
  exact ⟨c, _, pushes_acts begun acts, at_0, by rw [here, heads], by rw [here, commits]⟩

/-- The first push takes over a branch that stands at the base, by moving it on to its commit. -/
theorem branch_carries_claimed : ∃ c, Bears c.repository (shopPlan.message 0) "c1" ∧
    Carried .strict shopPlan c.repository ∧
    (∀ c', Acts .strict c c' → Guarded shopPlan c.repository c'.repository) ∧
    ∃ c', Acts .strict c c' ∧ c.repository.heads shopPlan.branch = some "ba5e" ∧
      c'.repository.heads shopPlan.branch = some "c1" := by
  obtain ⟨c, k, run, at_0, heads, commits⟩ := first_push
  obtain ⟨carried, guarded⟩ := branch_carries claimed_unused run
  have made : c.repository.commits "c1" = some ⟨"t1", ["ba5e"], shopPlan.message 0⟩ := by
    rw [commits, Function.update_self]
  have still : c.repository.heads shopPlan.branch = some "ba5e" := by
    rw [heads]
    simp [claimed, shopPlan]
  have forward : c.repository.Descends "c1" "ba5e" := .single ⟨_, made, List.mem_singleton_self _⟩
  exact ⟨c, ⟨by decide, _, made, rfl⟩, carried, guarded, _,
    .answer at_0 (.ok (.patchRef still (.inr forward))), still, by simp⟩

end

end KuWarden.GitHub
