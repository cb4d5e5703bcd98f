import KuWarden.ConfigStore
import KuWarden.Python.Segments
import KuWarden.State

/-!
The URL of an application's repository, as registration writes it and as it is read.
-/
namespace KuWarden.Api.Register

open Text

inductive ScmProvider
  | github | azureRepos
  deriving DecidableEq

def ScmProvider.value : ScmProvider → String
  | .github => "github"
  | .azureRepos => "azure_repos"

structure RegisterApplication where
  name : String
  scmProvider : ScmProvider
  org : String
  repo : String
  project : Option String := none
  integrationModel : IntegrationModel
  sized : 1 ≤ name.length ∧ name.length ≤ 200 := by decide

structure AppRow extends Registered where
  id : UUID
  repoUrl : String

def RegisterApplication.repoUrl (body : RegisterApplication) : String :=
  match body.scmProvider with
  | .github => "https://github.com/" ++ body.org ++ "/" ++ body.repo
  | .azureRepos => "https://dev.azure.com/" ++ body.org ++ "/" ++ body.project.getD "None" ++
      "/_git/" ++ body.repo

/-- The rows afterwards, and the answer. -/
def registerApplication (appId : UUID) (body : RegisterApplication) (registry : List AppRow) :
    List AppRow × Except ApiExc AppRow :=
  if body.scmProvider = .azureRepos ∧ nonEmpty body.project = none then
    (registry, abort 422 "azure_repos requires a project")
  else if registry.any fun row => row.name = body.name then
    (registry, abort 409 ("an application named " ++ Text.repr body.name ++ " is already registered"))
  else
    let row : AppRow := {
      name := body.name
      integrationModel := body.integrationModel
      id := appId
      repoUrl := body.repoUrl }
    (registry ++ [row], .ok row)

/-! ## Reading a URL -/

/-- What a URL is made of, its scheme left out. -/
def segments (repoUrl : String) : List String :=
  let authority := afterLast "://".toList (rstripChar '/' (strip repoUrl).toList)
  ((splitChars '/' authority).filter (· ≠ [])).map String.ofList

/-- The last segment loses a `.git`. -/
def unsuffixed (segments : List String) : List String :=
  segments.dropLast ++ segments.getLast?.toList.map fun last =>
    String.ofList (removesuffix ".git".toList last.toList)

/-- `_repo_config`: parse a repository URL as an operator would paste it. -/
def repoConfig (repoUrl : String) : Except PyError RepoConfig :=
  let segments := unsuffixed (segments repoUrl)
  if occurs "github.com" repoUrl then
    -- host / org / repo.
    match segments.reverse with
    | repo :: org :: _ :: _ => .ok { name := repo, provider := "github", org := org, repo := repo }
    | _ => .error (configError (Text.repr repoUrl ++ " is not a GitHub repository URL; expected " ++
        "https://github.com/<org>/<repo>"))
  else
    -- host / org / project / _git / repo.
    let refused := configError (Text.repr repoUrl ++ " is not an Azure Repos URL; expected " ++
      "https://dev.azure.com/<org>/<project>/_git/<repo>")
    match segments.reverse with
    | repo :: marker :: project :: org :: _ :: _ =>
        if marker = "_git" then
          .ok { name := repo, provider := "azure_repos", org := org, repo := repo,
                project := some project }
        else .error refused
    | _ => .error refused

/-! ## Round trip -/

/-- A name as a platform allows it. -/
structure Named (name : String) : Prop where
  filled : name ≠ ""
  unslashed : '/' ∉ name.toList
  trimmed : strip name = name

structure Valid (body : RegisterApplication) : Prop where
  org : Named body.org
  repo : Named body.repo
  project : ∀ project, body.project = some project → Named project
  plain : ¬ ".git".toList <:+ body.repo.toList

/-- The project a repository lies in; GitHub has none. -/
def RegisterApplication.within (body : RegisterApplication) : Option String :=
  match body.scmProvider with
  | .github => none
  | .azureRepos => body.project

/-- A configuration is of the repository that was registered. -/
structure Restores (body : RegisterApplication) (config : RepoConfig) : Prop where
  provider : config.provider = body.scmProvider.value
  org : config.org = body.org
  project : config.project = body.within
  repo : config.repo = body.repo

section

variable {segs : List String}

/-- No scheme is left in segments that are named. -/
theorem no_scheme (there : segs ≠ []) (filled : ∀ seg ∈ segs, seg ≠ "")
    (unslashed : ∀ seg ∈ segs, '/' ∉ seg.toList) :
    ¬ [':', '/', '/'] <:+: ['/', '/'] ++ (join "/" segs).toList := by
  intro here
  have within : [':', '/', '/'] <:+: (join "/" segs).toList := by
    rcases List.infix_cons_iff.mp here with first | here
    · exact absurd (List.cons_prefix_cons.mp first).1 (by decide)
    · rcases List.infix_cons_iff.mp here with first | here
      · exact absurd (List.cons_prefix_cons.mp first).1 (by decide)
      · exact here
  obtain ⟨front, back, text⟩ := within
  have doubled : [] ∈ (splitChars '/' (front ++ [':'] ++ '/' :: '/' :: back)).tail :=
    nil_mem_splitChars
  rw [show front ++ [':'] ++ '/' :: '/' :: back = (join "/" segs).toList by rw [← text]; simp,
    splitChars_join rfl there unslashed] at doubled
  obtain ⟨seg, mem, empty⟩ := List.mem_map.mp (List.mem_of_mem_tail doubled)
  exact filled seg mem (String.toList_inj.mp empty)

/-- Segments that are named are read as they were written. -/
theorem segments_join (there : segs ≠ []) (filled : ∀ seg ∈ segs, seg ≠ "")
    (unslashed : ∀ seg ∈ segs, '/' ∉ seg.toList)
    (ending : ∃ c, (join "/" segs).toList.getLast? = some c ∧ isSpace c = false ∧ c ≠ '/') :
    segments ("https://" ++ join "/" segs) = segs := by
  obtain ⟨last, ends, unspaced, unslashed'⟩ := ending
  have text : ("https://" ++ join "/" segs).toList =
      "https".toList ++ ':' :: (['/', '/'] ++ (join "/" segs).toList) := by
    rw [String.toList_append]
    rfl
  have url_ends : ("https://" ++ join "/" segs).toList.getLast? = some last :=
    getLast?_append ends
  have stripped : strip ("https://" ++ join "/" segs) = "https://" ++ join "/" segs := by
    refine strip_eq (fun c first => ?_) fun c final => ?_
    · rw [text] at first
      cases first
      decide
    · rw [url_ends] at final
      cases final
      exact unspaced
  have closed : rstripChar '/' ("https://" ++ join "/" segs).toList =
      ("https://" ++ join "/" segs).toList := by
    refine List.rdropWhile_eq_self_iff.mpr fun full slash => unslashed' ?_
    rw [List.getLast?_eq_some_getLast full] at url_ends
    rw [← Option.some.inj url_ends]
    exact of_decide_eq_true slash
  have authority : afterLast "://".toList ("https://" ++ join "/" segs).toList =
      (join "/" segs).toList := by
    rw [text]
    exact afterLast_append (no_scheme there filled unslashed)
  have kept : (segs.map String.toList).filter (· ≠ []) = segs.map String.toList := by
    refine List.filter_eq_self.mpr fun cs mem => ?_
    obtain ⟨seg, among, rfl⟩ := List.mem_map.mp mem
    exact decide_eq_true fun empty => filled seg among (String.toList_inj.mp empty)
  unfold segments
  dsimp only
  rw [stripped, closed, authority, splitChars_join rfl there unslashed, kept, List.map_map]
  simp

end

/-- What ends in a name without `.git` keeps it. -/
theorem unsuffixed_concat (front : List String) {last : String}
    (plain : ¬ ".git".toList <:+ last.toList) : unsuffixed (front ++ [last]) = front ++ [last] := by
  have kept : removesuffix ".git".toList last.toList = last.toList := if_neg plain
  rw [unsuffixed, List.dropLast_concat, List.getLast?_concat]
  show front ++ [String.ofList (removesuffix ".git".toList last.toList)] = front ++ [last]
  rw [kept, String.ofList_toList]

variable {body : RegisterApplication} {name : String}

theorem Named.ending (named : Named name) :
    ∃ c, name.toList.getLast? = some c ∧ isSpace c = false ∧ c ≠ '/' := by
  have there : name.toList ≠ [] := fun empty => named.filled (String.toList_inj.mp empty)
  have last := List.getLast?_eq_some_getLast there
  refine ⟨_, last, last_of_strip named.trimmed last, fun slash => named.unslashed ?_⟩
  rw [← slash]
  exact List.getLast_mem there

/-- The segments of the address of a repository. -/
def RegisterApplication.address (body : RegisterApplication) : List String :=
  match body.scmProvider with
  | .github => ["github.com", body.org, body.repo]
  | .azureRepos => ["dev.azure.com", body.org, body.project.getD "None", "_git", body.repo]

theorem repo_url_eq : body.repoUrl = "https://" ++ join "/" body.address := by
  unfold RegisterApplication.repoUrl RegisterApplication.address
  cases body.scmProvider <;> simp [join, String.append_assoc] <;> rfl

theorem address_named (valid : Valid body) :
    ∀ seg ∈ body.address, seg ≠ "" ∧ '/' ∉ seg.toList := by
  have project : body.project.getD "None" ≠ "" ∧ '/' ∉ (body.project.getD "None").toList := by
    cases given : body.project with
    | none => decide
    | some project => exact ⟨(valid.project project given).filled, (valid.project project given).unslashed⟩
  have org := And.intro valid.org.filled valid.org.unslashed
  have repo := And.intro valid.repo.filled valid.repo.unslashed
  unfold RegisterApplication.address
  cases body.scmProvider with
  | github =>
      simp only [List.forall_mem_cons]
      exact ⟨by decide, org, repo, by simp⟩
  | azureRepos =>
      simp only [List.forall_mem_cons]
      exact ⟨by decide, org, project, by decide, repo, by simp⟩

theorem unsuffixed_repo_url (valid : Valid body) :
    unsuffixed (segments body.repoUrl) = body.address := by
  have named := address_named valid
  obtain ⟨c, last, ending⟩ := valid.repo.ending
  have there : body.address ≠ [] := by
    unfold RegisterApplication.address
    split <;> simp
  have ends : (join "/" body.address).toList.getLast? = some c := by
    unfold RegisterApplication.address
    split
    · exact getLast?_append (getLast?_append last)
    · exact getLast?_append (getLast?_append (getLast?_append (getLast?_append last)))
  have read := segments_join there (fun seg mem => (named seg mem).1)
    (fun seg mem => (named seg mem).2) ⟨c, ends, ending⟩
  rw [repo_url_eq, read]
  unfold RegisterApplication.address
  split
  · exact unsuffixed_concat ["github.com", body.org] valid.plain
  · exact unsuffixed_concat ["dev.azure.com", body.org, _, "_git"] valid.plain

/-- Where the host of GitHub occurs in a URL. -/
theorem occurs_repo_url : occurs "github.com" body.repoUrl = true ↔
    ∃ seg ∈ body.address, occurs "github.com" seg = true := by
  have whole : body.repoUrl = join "/" ("https:" :: "" :: body.address) := by
    rw [repo_url_eq]
    unfold RegisterApplication.address
    cases body.scmProvider <;> simp [join, ← String.append_assoc]
  rw [whole, occurs_join rfl (by decide) (List.cons_ne_nil _ _)]
  have scheme : occurs "github.com" "https:" = false ∧ occurs "github.com" "" = false := by decide
  simp [scheme.1, scheme.2]

/-- What is stored is read back as what was registered, and never as the other provider's. -/
structure RoundTrips (body : RegisterApplication) (stored : String) : Prop where
  restored : ∃ config, repoConfig stored = .ok config ∧ Restores body config
  provider : ∀ config, repoConfig stored = .ok config → config.provider = body.scmProvider.value

/-- No name of the repository holds the host of GitHub. -/
def Unmistakable (body : RegisterApplication) : Prop :=
  ∀ name ∈ [body.org, body.repo] ++ body.project.toList, occurs "github.com" name = false

theorem registered_row {appId : UUID} {registry registry' : List AppRow} {row : AppRow}
    (registered : registerApplication appId body registry = (registry', .ok row)) :
    row.repoUrl = body.repoUrl ∧
      (body.scmProvider = .azureRepos → ∃ project, body.project = some project) := by
  unfold registerApplication at registered
  split at registered
  · cases registered
  next given =>
    split at registered
    · cases registered
    · cases registered
      refine ⟨rfl, fun azure => ?_⟩
      cases named : body.project with
      | none => exact absurd ⟨azure, by rw [named]; rfl⟩ given
      | some project => exact ⟨project, rfl⟩

theorem round_trips_github (valid : Valid body) (github : body.scmProvider = .github) :
    RoundTrips body body.repoUrl := by
  have address : body.address = ["github.com", body.org, body.repo] := by
    rw [RegisterApplication.address, github]
  have host : occurs "github.com" body.repoUrl = true :=
    occurs_repo_url.mpr ⟨"github.com", by rw [address]; exact List.mem_cons_self, by decide⟩
  have read : repoConfig body.repoUrl =
      .ok { name := body.repo, provider := "github", org := body.org, repo := body.repo } := by
    rw [repoConfig, unsuffixed_repo_url valid, if_pos host, address]
    rfl
  have within : body.within = none := by rw [RegisterApplication.within, github]
  refine ⟨⟨_, read, by rw [github]; rfl, rfl, within.symm, rfl⟩, fun config same => ?_⟩
  cases read.symm.trans same
  rw [github]
  rfl

theorem round_trips_azure (valid : Valid body) (azure : body.scmProvider = .azureRepos)
    {project : String} (named : body.project = some project) :
    RoundTrips body body.repoUrl ↔ Unmistakable body := by
  have address : body.address = ["dev.azure.com", body.org, project, "_git", body.repo] := by
    rw [RegisterApplication.address, azure, named]
    rfl
  have fixed : occurs "github.com" "dev.azure.com" = false ∧ occurs "github.com" "_git" = false := by
    decide
  have clear_iff : Unmistakable body ↔
      ∀ seg ∈ body.address, occurs "github.com" seg = false := by
    rw [Unmistakable, address, named]
    simp only [Option.toList_some, List.cons_append, List.nil_append, List.forall_mem_cons,
      fixed.1, fixed.2, true_and]
    constructor
    · exact fun ⟨org, repo, project, nothing⟩ => ⟨org, project, repo, nothing⟩
    · exact fun ⟨org, project, repo, nothing⟩ => ⟨org, repo, project, nothing⟩
  have host : occurs "github.com" body.repoUrl = true ↔ ¬ Unmistakable body := by
    rw [occurs_repo_url, clear_iff]
    constructor
    · rintro ⟨seg, mem, here⟩ clear
      rw [clear seg mem] at here
      cases here
    · intro mistaken
      by_contra nowhere
      exact mistaken fun seg mem => Bool.eq_false_iff.mpr fun here => nowhere ⟨seg, mem, here⟩
  constructor
  · intro trips
    by_contra mistaken
    have read : repoConfig body.repoUrl =
        .ok { name := body.repo, provider := "github", org := "_git", repo := body.repo } := by
      rw [repoConfig, unsuffixed_repo_url valid, if_pos (host.mpr mistaken), address]
      rfl
    have other := trips.provider _ read
    rw [azure] at other
    exact absurd (show "github" = "azure_repos" from other) (by decide)
  · intro clear
    have read : repoConfig body.repoUrl = .ok {
        name := body.repo, provider := "azure_repos", org := body.org, repo := body.repo,
        project := some project } := by
      rw [repoConfig, unsuffixed_repo_url valid, if_neg fun there => host.mp there clear, address]
      exact if_pos rfl
    have within : body.within = some project := by rw [RegisterApplication.within, azure, named]
    refine ⟨⟨_, read, by rw [azure]; rfl, rfl, within.symm, rfl⟩, fun config same => ?_⟩
    cases read.symm.trans same
    rw [azure]
    rfl

/-- A repository is read back as it was registered if and only if it is GitHub's, or no name of
it holds the host of GitHub. -/
theorem round_trips_iff {appId : UUID} {registry registry' : List AppRow} {row : AppRow}
    (valid : Valid body)
    (registered : registerApplication appId body registry = (registry', .ok row)) :
    RoundTrips body row.repoUrl ↔ (body.scmProvider = .azureRepos → Unmistakable body) := by
  obtain ⟨url, given⟩ := registered_row registered
  rw [url]
  cases provider : body.scmProvider with
  | github => exact ⟨fun _ azure => (nomatch azure), fun _ => round_trips_github valid provider⟩
  | azureRepos =>
      obtain ⟨project, named⟩ := given provider
      rw [round_trips_azure valid provider named]
      exact ⟨fun clear _ => clear, fun clear => clear rfl⟩

/-- A mirror of a project on GitHub, in Azure Repos. -/
def mirror : RegisterApplication where
  name := "mirror"
  scmProvider := .azureRepos
  org := "acme"
  repo := "shop"
  project := some "github.com-mirrors"
  integrationModel := .gatedMerge

theorem mirror_valid : Valid mirror where
  org := ⟨by decide, by decide, by decide⟩
  repo := ⟨by decide, by decide, by decide⟩
  project _ given := by
    cases given
    exact ⟨by decide, by decide, by decide⟩
  plain := by decide

theorem round_trips_mirror :
    RoundTrips mirror mirror.repoUrl ↔ (mirror.scmProvider = .azureRepos → Unmistakable mirror) :=
  @round_trips_iff mirror ⟨7⟩ [] [_] _ mirror_valid rfl

/-- The mirror is registered, and read as a repository of the organisation `_git` on GitHub. -/
theorem mirror_mistaken : ∃ row, registerApplication ⟨7⟩ mirror [] = ([row], .ok row) ∧
    Valid mirror ∧ repoConfig row.repoUrl =
      .ok { name := "shop", provider := "github", org := "_git", repo := "shop" } ∧
    ¬ RoundTrips mirror row.repoUrl := by
  have read : repoConfig mirror.repoUrl =
      .ok { name := "shop", provider := "github", org := "_git", repo := "shop" } := by
    decide +kernel
  refine ⟨_, rfl, mirror_valid, read, fun trips => ?_⟩
  exact absurd (trips.provider _ read) (by decide)

end KuWarden.Api.Register
