import KuWarden.Adapters.Protocols
import KuWarden.Adapters.Secrets

/-!
The realms that share a variable of the development broker.
-/
namespace KuWarden.Secrets

open Text

namespace EnvCredentialBroker

variable (letters : Letters)

/-- The token of `realm` is kept from a request. -/
structure Kept (kind : CredentialKind) (realm : String) (request : CredentialRequest) : Prop where
  /-- Where it is stored nowhere else, it is not what the request is given. -/
  unreturned : ∀ (broker : EnvCredentialBroker) token,
    broker.environ (narrow letters kind realm) = some token →
    (∀ name, broker.environ name = some token → name = narrow letters kind realm) →
      broker.resolve letters request ≠ .ok ⟨token⟩
  /-- Whether it is stored, and which token it is, makes no difference. -/
  unread : ∀ broker broker' : EnvCredentialBroker,
    (∀ name, name ≠ narrow letters kind realm → broker.environ name = broker'.environ name) →
      broker.resolve letters request = broker'.resolve letters request

variable {letters : Letters}

/-! ## Variables -/

theorem toList_narrow (kind : CredentialKind) (realm : String) :
    (narrow letters kind realm).toList =
      (envVariables kind ++ "__").toList ++ letters.marked realm.toList := by
  rw [narrow, String.toList_append, realmSlug, String.toList_ofList]

/-- No two underscores follow each other in the name of a variable. -/
theorem variables_spaced (kind : CredentialKind) :
    ¬ ['_', '_'] <:+: (envVariables kind).toList ++ ['_'] := by
  cases kind <;> decide +kernel

/-- No variable is named as another with two underscores begins. -/
theorem variables_apart (kind kind' : CredentialKind) :
    ((envVariables kind ++ "__").toList <+: (envVariables kind' ++ "__").toList →
      envVariables kind = envVariables kind') ∧
    ¬ (envVariables kind ++ "__").toList <+: (envVariables kind').toList := by
  have marks : ∀ kind, (envVariables kind ++ "__").toList = (envVariables kind).toList ++ ['_', '_'] :=
    fun kind => String.toList_append
  have inner : ¬ (envVariables kind ++ "__").toList <+: (envVariables kind').toList ++ ['_'] := by
    intro within
    refine variables_spaced kind' (List.IsInfix.trans ?_ within.isInfix)
    rw [marks]
    exact (List.suffix_append _ _).isInfix
  constructor
  · intro within
    rw [marks kind', List.append_cons] at within
    rcases List.prefix_concat_iff.mp within with same | within
    · rw [marks, List.append_assoc] at same
      exact String.toList_inj.mp (List.append_cancel_right same)
    · exact absurd within inner
  · exact fun within => inner (within.trans (List.prefix_append _ _))

theorem variables_ne_narrow (kind kind' : CredentialKind) (realm : String) :
    envVariables kind ≠ narrow letters kind' realm := by
  intro same
  refine (variables_apart kind' kind).2 ⟨letters.marked realm.toList, ?_⟩
  rw [same, toList_narrow]

/-- Which requests look for the same variable first. -/
theorem narrow_inj {kind kind' : CredentialKind} {realm realm' : String} :
    narrow letters kind realm = narrow letters kind' realm' ↔ envVariables kind = envVariables kind' ∧
      (letters.words realm.toList).map letters.capitals =
        (letters.words realm'.toList).map letters.capitals := by
  rw [← letters.marked_inj]
  constructor
  · intro same
    have texts := congrArg String.toList same
    rw [toList_narrow, toList_narrow] at texts
    have name : envVariables kind = envVariables kind' := by
      rcases List.prefix_or_prefix_of_prefix (List.prefix_append _ _)
        (texts ▸ List.prefix_append _ _) with within | within
      · exact ((variables_apart kind' kind).1 within).symm
      · exact (variables_apart kind kind').1 within
    rw [name] at texts
    exact ⟨name, List.append_cancel_left texts⟩
  · rintro ⟨name, same⟩
    rw [narrow, narrow, realmSlug, realmSlug, name, same]

/-! ## Isolation -/

theorem resolve_ok {broker : EnvCredentialBroker} {request : CredentialRequest} {token : String}
    (found : broker.resolve letters request = .ok ⟨token⟩) :
    broker.environ (narrow letters request.kind request.realm) = some token ∨
      broker.environ (envVariables request.kind) = some token := by
  unfold resolve at found
  dsimp only at found
  split at found
  next value looked =>
    cases found
    rcases Option.or_eq_some_iff.mp looked with here | ⟨-, here⟩
    · exact .inl (nonEmpty_eq_some.mp here).1
    · exact .inr (nonEmpty_eq_some.mp here).1
  next => cases found

/-- Requests that look for the same variable first are given the same token. -/
theorem not_kept {kind : CredentialKind} {realm : String} {request : CredentialRequest}
    (same : narrow letters kind realm = narrow letters request.kind request.realm) :
    ¬ Kept letters kind realm request := by
  intro kept
  let broker : EnvCredentialBroker :=
    ⟨fun name => if name = narrow letters kind realm then some "token" else none⟩
  refine kept.unreturned broker "token" (if_pos rfl) (fun name is => ?_) ?_
  · by_contra other
    rw [show broker.environ name = none from if_neg other] at is
    cases is
  · have held : broker.environ (narrow letters request.kind request.realm) = some "token" :=
      if_pos same.symm
    have whole : nonEmpty (some "token") = some "token" := by decide
    unfold resolve
    simp only [held, whole, Option.some_or]

/-- A realm's token is kept from a request if and only if the request is for another variable,
or the words of the two realms differ in more than case. -/
theorem kept_iff {kind : CredentialKind} {realm : String} {request : CredentialRequest} :
    Kept letters kind realm request ↔ envVariables kind ≠ envVariables request.kind ∨
      (letters.words realm.toList).map letters.capitals ≠
        (letters.words request.realm.toList).map letters.capitals := by
  rw [← not_and_or, ← narrow_inj]
  constructor
  · exact fun kept same => not_kept same kept
  · intro apart
    refine ⟨fun broker token stored only returned => ?_, fun broker broker' agree => ?_⟩
    · rcases resolve_ok returned with here | here
      · exact apart (only _ here).symm
      · exact variables_ne_narrow _ _ _ (only _ here)
    · unfold resolve
      dsimp only
      rw [agree _ fun same => apart same.symm, agree _ (variables_ne_narrow _ _ _)]

def euRepo : RepoRef := { host := "github.com", org := "acme-eu", repo := "shop" }

def otherRepo : RepoRef := { host := "github.com", org := "acme_eu", repo := "shop" }

/-- Two organisations whose names differ in a hyphen read each other's tokens. -/
theorem realms_collide : euRepo.realm ≠ otherRepo.realm ∧
    ¬ Kept Letters.basic .scmWriteBranch euRepo.realm
      ⟨.scmWriteBranch, otherRepo.realm⟩ := by
  constructor
  · decide
  · exact not_kept (narrow_inj.mpr ⟨rfl, by decide⟩)

end EnvCredentialBroker
end KuWarden.Secrets
