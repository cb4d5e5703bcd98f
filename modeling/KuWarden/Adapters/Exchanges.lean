import KuWarden.Adapters.GitHub
import KuWarden.Process.Triples

/-!
What an exchange with the platform does while others add objects and move branches.
-/
namespace KuWarden.GitHub

open Process DataApi

variable {builder : TreeBuilder} {w w₁ w₂ : Repository} {α β : Type}

structure Push where
  base : BranchRef
  branch : String
  message : String
  edits : List FileEdit
  parent : Option String

/-- The entry an edit is posted as; its blob is stored. -/
structure Posted (w : Repository) (edit : FileEdit) (entry : TreeEntry) : Prop where
  path : entry.path = lstrip edit.path
  mode : entry.mode = "100644"
  type : entry.type = "blob"
  removes : edit.deleted = true → entry.sha = none
  adds : edit.deleted = false → ∃ sha, entry.sha = some sha ∧
    w.blobs sha = some (BuildTest.encode edit.content)

/-- `tree` is what the platform makes of the tree of `base` and the edits. -/
def Built (builder : TreeBuilder) (w : Repository) (base : String) (edits : List FileEdit)
    (tree : String) : Prop :=
  ∃ commit t entries t', w.commits base = some commit ∧ w.trees commit.tree = some t ∧
    List.Forall₂ (Posted w) edits entries ∧ builder.plus t entries = some t' ∧
    w.trees tree = some t'

def Bears (w : Repository) (message sha : String) : Prop :=
  sha ≠ "" ∧ ∃ commit, w.commits sha = some commit ∧ commit.message = message

/-- What a push may ask of the platform: to store its own commit, and to point its own branch
at such a commit without force. -/
def May (builder : TreeBuilder) (p : Push) (w : Repository) : ApiOp → Prop
  | .postCommit message tree parents => message = p.message ∧
      parents = [expected p.base p.parent] ∧ Built builder w p.base.commit p.edits tree
  | .postRef ref sha => ref = "refs/heads/" ++ p.branch ∧ Bears w p.message sha
  | .patchRef branch sha force => branch = p.branch ∧ force = false ∧ Bears w p.message sha
  | _ => True

/-! ## Objects that are added -/

theorem Posted.mono {edit : FileEdit} {entry : TreeEntry} (grows : w.Grows w₁)
    (posted : Posted w edit entry) : Posted w₁ edit entry where
  path := posted.path
  mode := posted.mode
  type := posted.type
  removes := posted.removes
  adds keeps := by
    obtain ⟨sha, same, stored⟩ := posted.adds keeps
    exact ⟨sha, same, grows.blobs stored⟩

theorem Built.mono {base tree : String} {edits : List FileEdit} (grows : w.Grows w₁)
    (built : Built builder w base edits tree) : Built builder w₁ base edits tree := by
  obtain ⟨commit, t, entries, t', known, stored, posted, plus, made⟩ := built
  exact ⟨commit, t, entries, t', grows.commits known, grows.trees stored,
    posted.imp fun _ _ posted => posted.mono grows, plus, grows.trees made⟩

theorem Bears.mono {message sha : String} (grows : w.Grows w₁) (bears : Bears w message sha) :
    Bears w₁ message sha := by
  obtain ⟨named, commit, known, same⟩ := bears
  exact ⟨named, commit, grows.commits known, same⟩

theorem May.mono {p : Push} {op : ApiOp} (grows : w.Grows w₁) (may : May builder p w op) :
    May builder p w₁ op := by
  cases op with
  | postCommit message tree parents => exact ⟨may.1, may.2.1, may.2.2.mono grows⟩
  | postRef ref sha => exact ⟨may.1, may.2.mono grows⟩
  | patchRef branch sha force => exact ⟨may.1, may.2.1, may.2.2.mono grows⟩
  | _ => trivial

/-! ## Rules -/

/-- The platform as one exchange finds it: it answers, and between two answers it grows. -/
def platform (builder : TreeBuilder) : System Unit Repository ApiOp ApiRep Unit where
  serve _ w op r _ w' := Answers builder w op r w'
  env _ w _ _ w' := w.Grows w'

/-- Everything asked so far, a push `p` may ask. -/
def Meant (builder : TreeBuilder) (p : Push) : Assertion Unit Repository ApiOp ApiRep Unit :=
  fun _ w h => ∀ op, .call op ∈ h → May builder p w op

/-- From `w`, an exchange asks only what `p` may ask, and returns what `P` holds of. -/
def Does (builder : TreeBuilder) (p : Push) (t : Exchange α) (P : α → Repository → Prop)
    (w : Repository) : Prop :=
  ∀ h, Meant builder p () w h → t.wp (platform builder) (Meant builder p)
    (fun r _ w' h' => Meant builder p () w' h' ∧ w.Grows w' ∧ ∀ a, r = .ok a → P a w') () w h

variable {p : Push} {P : α → Repository → Prop} {R : β → Repository → Prop}
  {h : History ApiOp ApiRep Unit}

theorem Meant.mono (grows : w.Grows w₁) (meant : Meant builder p () w h) :
    Meant builder p () w₁ h :=
  fun op mem => (meant op mem).mono grows

theorem Meant.concat {l : Label ApiOp ApiRep Unit} (meant : Meant builder p () w h)
    (may : ∀ op, l = .call op → May builder p w op) : Meant builder p () w (h ++ [l]) := by
  intro op mem
  rcases List.mem_append.mp mem with mem | mem
  · exact meant op mem
  · exact may op (List.mem_singleton.mp mem).symm

theorem meant_drift {s s' : Unit} {h' : History ApiOp ApiRep Unit}
    (meant : Meant builder p s w h) (drift : (platform builder).Drift s w h s' w₁ h') :
    Meant builder p s' w₁ h' ∧ w.Grows w₁ := by
  induction drift with
  | refl => exact ⟨meant, .refl⟩
  | step _ moved ih =>
      obtain ⟨held, grown⟩ := ih
      exact ⟨Meant.concat (Meant.mono moved held) (by simp), grown.trans moved⟩

theorem does_pure {a : α} (held : P a w) : Does builder p (pure a : Exchange α) P w :=
  fun _ meant => ⟨meant, .refl, fun _ same => by cases same; exact held⟩

theorem does_raise {e : PyError} : Does builder p (Task.raise e : Exchange α) P w :=
  fun _ meant => ⟨meant, .refl, fun _ same => by cases same⟩

theorem does_ofExcept {r : Except PyError α} (held : ∀ a, r = .ok a → P a w) :
    Does builder p (Task.ofExcept r) P w :=
  fun _ meant => ⟨meant, .refl, held⟩

theorem does_bind {t : Exchange α} {f : α → Exchange β} (ht : Does builder p t P w)
    (hf : ∀ a w', w.Grows w' → P a w' → Does builder p (f a) R w') :
    Does builder p (t >>= f) R w := by
  intro h meant
  refine Task.wp_bind.mpr (Task.wp_mono (ht h meant) ?_)
  rintro r ⟨⟩ w₁ h₁ ⟨held, grown, result⟩
  cases r with
  | error e => exact ⟨held, grown, fun _ same => by cases same⟩
  | ok a =>
      refine Task.wp_mono (hf a w₁ grown (result a rfl) h₁ held) ?_
      rintro r s w₂ h₂ ⟨held', grown', result'⟩
      exact ⟨held', grown.trans grown', result'⟩

theorem does_mono {t : Exchange α} {Q : α → Repository → Prop} (ht : Does builder p t P w)
    (hP : ∀ a w', w.Grows w' → P a w' → Q a w') : Does builder p t Q w := by
  intro h meant
  refine Task.wp_mono (ht h meant) ?_
  rintro r ⟨⟩ w₁ h₁ ⟨held, grown, result⟩
  exact ⟨held, grown, fun a same => hP a w₁ grown (result a same)⟩

theorem does_call {op : ApiOp} {P : ApiRep op → Repository → Prop}
    (may : ∀ w₁, w.Grows w₁ → May builder p w₁ op)
    (answered : ∀ r w₁ w₂, w.Grows w₁ → Answers builder w₁ op r w₂ → P r w₂) :
    Does builder p (Task.call op) P w := by
  intro h meant
  refine Task.wp_call.mpr fun s w₁ h₁ drift => ?_
  obtain ⟨held, grown⟩ := meant_drift (meant.concat fun op' same => by cases same; exact may w .refl)
    drift
  refine ⟨held, fun r s₂ w₂ answers => ?_⟩
  refine ⟨Meant.concat (Meant.mono answers.grows held) (by simp), grown.trans answers.grows, ?_⟩
  intro r' same
  cases same
  exact answered r w₁ w₂ grown answers

theorem does_request {op : ApiOp} {P : ApiValue op → Repository → Prop}
    (may : ∀ w₁, w.Grows w₁ → May builder p w₁ op)
    (answered : ∀ v w₁ w₂, w.Grows w₁ → Effect builder w₁ op v w₂ → P v w₂) :
    Does builder p (request op) P w := by
  refine does_bind (does_call (P := fun r w₂ => ∀ v, r = .ok v → P v w₂) may ?_) ?_
  · rintro r w₁ w₂ grown answers v rfl
    cases answers with
    | ok effect => exact answered v w₁ w₂ grown effect
  · intro r w' _ result
    exact does_ofExcept result

theorem does_handle {t : Exchange α} {handler : PyError → Exchange α}
    (ht : Does builder p t P w) (hh : ∀ e w', Does builder p (handler e) P w') :
    Does builder p (t.handle handler) P w := by
  intro h meant
  refine Task.wp_handle.mpr (Task.wp_mono (ht h meant) ?_)
  rintro r ⟨⟩ w₁ h₁ ⟨held, grown, result⟩
  cases r with
  | ok a => exact ⟨held, grown, result⟩
  | error e =>
      refine Task.wp_mono (hh e w₁ h₁ held) ?_
      rintro r s w₂ h₂ ⟨held', grown', result'⟩
      exact ⟨held', grown.trans grown', result'⟩

/-! ## Pushing -/

theorem branch_tip_does {branch : String} : Does builder p (branchTip branch)
    (fun tip _ => ∀ found, tip = some found → found.commit ≠ "") w := by
  refine does_bind (does_call (P := fun _ _ => True) (fun _ _ => trivial) (fun _ _ _ _ _ => trivial))
    fun head w₁ _ _ => ?_
  cases head with
  | error e =>
      dsimp only
      split
      · exact does_pure (by simp)
      · exact does_raise
  | ok sha =>
      dsimp only
      split
      next => exact does_raise
      next sha found =>
        refine does_pure fun tip is => ?_
        cases is
        exact (nonEmpty_eq_some.mp found).2

theorem landed_does {branch message expected : String} {existing : Option BranchRef}
    (named : ∀ found, existing = some found → found.commit ≠ "") : Does builder p (landed branch message expected existing)
      (fun tip w' => ∀ found, tip = some found → Bears w' message found.commit) w := by
  cases existing with
  | none => exact does_pure (by simp)
  | some existing =>
      refine does_bind (P := fun found w' => Bears w' found existing.commit) ?_
        fun found w₁ _ bears => ?_
      · refine does_bind (P := fun payload w' => Bears w' payload.message existing.commit)
          (does_request (fun _ _ => trivial) ?_) fun payload w' _ bears => does_pure bears
        intro v w₁ w₂ _ effect
        cases effect with
        | getCommit known => exact ⟨named existing rfl, _, known, rfl⟩
      · split
        next same =>
          refine does_pure fun tip is => ?_
          cases is
          exact same ▸ bears
        next =>
          split
          · exact does_raise
          · exact does_pure (by simp)

theorem blob_sha_does {edit : FileEdit} :
    Does builder p (blobSha edit) (fun sha w' =>
      Posted w' edit ⟨lstrip edit.path, "100644", "blob", sha⟩) w := by
  unfold blobSha
  split
  next deleted =>
    exact does_pure ⟨rfl, rfl, rfl, fun _ => rfl, fun keeps => by simp [deleted] at keeps⟩
  next keeps =>
    refine does_bind (P := fun sha w' => w'.blobs sha = some (BuildTest.encode edit.content))
      (does_request (fun _ _ => trivial) ?_) fun sha w' _ stored => does_pure
        ⟨rfl, rfl, rfl, fun deleted => absurd deleted keeps, fun _ => ⟨sha, rfl, stored⟩⟩
    intro v w₁ w₂ _ effect
    cases effect with
    | postBlob read names =>
        rw [Base64.b64decode_b64encode] at read
        cases read
        exact Function.update_self ..

theorem tree_entries_does {edits : List FileEdit} : Does builder p (treeEntries edits)
    (fun entries w' => List.Forall₂ (Posted w') edits entries) w := by
  induction edits generalizing w with
  | nil => exact does_pure .nil
  | cons edit rest ih =>
      refine does_bind blob_sha_does fun sha w₁ _ posted => ?_
      refine does_bind ih fun entries w₂ grown all => ?_
      exact does_pure (.cons (posted.mono grown) all)

theorem commit_change_does : Does builder p
    (commitChange p.base p.message p.edits (expected p.base p.parent))
    (fun sha w' => Bears w' p.message sha) w := by
  refine does_bind (P := fun payload w' => ∃ commit, w'.commits p.base.commit = some commit ∧
    payload.tree = some commit.tree) (does_request (fun _ _ => trivial) ?_)
    fun payload w₁ _ known => ?_
  · intro v w₁ w₂ _ effect
    cases effect with
    | getCommit known => exact ⟨_, known, rfl⟩
  · obtain ⟨base, known, tree⟩ := known
    split
    next => exact does_raise
    next baseTree found =>
      rw [tree] at found
      obtain ⟨same, -⟩ := nonEmpty_eq_some.mp found
      cases same
      refine does_bind tree_entries_does fun entries w₂ grown₂ posted => ?_
      refine does_bind (P := fun tree w' => Built builder w' p.base.commit p.edits tree)
        (does_request (fun _ _ => trivial) ?_) fun tree w₃ grown₃ built => ?_
      · intro v w₃ w₄ grown₃ effect
        cases effect with
        | postTree stored plus names =>
            have grows : w₂.Grows _ := grown₃.trans (Effect.postTree stored plus names).grows
            exact ⟨base, _, entries, _, grows.commits (grown₂.commits known),
              (Effect.postTree stored plus names).grows.trees stored,
              posted.imp fun _ _ posted => posted.mono grows, plus, Function.update_self ..⟩
      · refine does_request (fun w₄ grown₄ => ⟨rfl, rfl, built.mono grown₄⟩) ?_
        intro v w₄ w₅ _ effect
        cases effect with
        | postCommit names _ => exact ⟨names.1, _, Function.update_self .., rfl⟩

theorem move_branch_does {commit : String} {existing : Option BranchRef}
    (bears : Bears w p.message commit) :
    Does builder p (moveBranch p.branch commit existing) (fun _ _ => True) w := by
  cases existing with
  | none => exact does_request (fun _ grown => ⟨rfl, bears.mono grown⟩) fun _ _ _ _ _ => trivial
  | some _ =>
      exact does_request (fun _ grown => ⟨rfl, rfl, bears.mono grown⟩) fun _ _ _ _ _ => trivial

/-- Whatever else moves, a push asks only what it may, and returns a commit that bears its
message. -/
theorem push_does : Does builder p (push p.base p.branch p.message p.edits p.parent)
    (fun ref w' => Bears w' p.message ref.commit) w := by
  refine does_bind (does_request (fun _ _ => trivial) fun _ _ _ _ _ => trivial)
    fun _ w₁ _ (_ : True) => ?_
  refine does_bind branch_tip_does fun existing w₂ _ named => ?_
  refine does_bind (landed_does named) fun tip w₃ _ found => ?_
  cases tip with
  | some tip => exact does_pure (found tip rfl)
  | none =>
      refine does_bind commit_change_does fun commit w₄ _ bears => ?_
      exact does_bind (move_branch_does bears) fun _ w₅ grown _ => does_pure (bears.mono grown)

theorem push_change_does {ref : RepoRef} :
    Does builder p (pushChange ref p.base p.branch p.message p.edits p.parent)
      (fun ref w' => Bears w' p.message ref.commit) w := by
  unfold pushChange
  split
  · exact does_raise
  · refine does_handle push_does fun e w' => ?_
    split
    · exact does_raise
    · exact does_raise

end KuWarden.GitHub
