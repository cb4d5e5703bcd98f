import KuWarden.Api.Users
import Mathlib.Logic.Relation

/-!
Sign-in, sessions and accounts over any interleaving of requests.

A session is a signed cookie that the server keeps no trace of: whoever was given one may
present it again with any later request, whatever happened to its account meanwhile, until the
cookie is too old. Every statement of every request runs on its own.
-/
namespace KuWarden.Api

open Process

/-- A row of `users`, with the columns that signing in reads. -/
structure Account where
  user : User
  displayName : String
  passwordHash : String
  deriving DecidableEq

/-- `users`: its ids are its key, and its emails are unique. -/
structure Accounts where
  rows : List Account
  keyed : (rows.map fun account => account.user.id).Nodup
  unique : (rows.map fun account => account.user.email).Nodup

/-- Argon2: whether a password verifies a hash, and whether the parameters were raised since the
hash was made. -/
structure Hasher where
  verify : String → String → Bool
  checkNeedsRehash : String → Bool

/-- There is a password that verifies both. -/
def Shares (hasher : Hasher) (hash hash' : String) : Prop :=
  ∃ password, hasher.verify hash password = true ∧ hasher.verify hash' password = true

/-- The hashes are of one password, as far as the hasher tells. -/
def Alike (hasher : Hasher) : String → String → Prop := Relation.ReflTransGen (Shares hasher)

theorem Alike.symm {hasher : Hasher} {hash hash' : String} (alike : Alike hasher hash hash') :
    Alike hasher hash' hash := by
  have : Std.Symm (Shares hasher) := ⟨fun _ _ ⟨password, is, is'⟩ => ⟨password, is', is⟩⟩
  exact Relation.ReflTransGen.stdSymm.symm _ _ alike

theorem Alike.trans {hasher : Hasher} {hash hash' hash'' : String}
    (first : Alike hasher hash hash') (later : Alike hasher hash' hash'') :
    Alike hasher hash hash'' := Relation.ReflTransGen.trans first later

theorem Alike.single {hasher : Hasher} {hash hash' password : String}
    (is : hasher.verify hash password = true) (is' : hasher.verify hash' password = true) :
    Alike hasher hash hash' := Relation.ReflTransGen.single ⟨password, is, is'⟩

/-- `email.strip().lower()`. -/
def address (email : String) : String := Text.lower (Text.strip email)

namespace Accounts

def users (accounts : Accounts) : Users where
  rows := accounts.rows.map Account.user
  keyed := by
    rw [List.map_map]
    exact accounts.keyed

theorem map_same {β : Type} {rows : List Account} {f : Account → Account} {π : Account → β}
    (same : ∀ account, π (f account) = π account) : (rows.map f).map π = rows.map π := by
  rw [List.map_map]
  exact List.map_congr_left fun account _ => same account

def write (accounts : Accounts) (f : Account → Account)
    (id : ∀ account, (f account).user.id = account.user.id)
    (email : ∀ account, (f account).user.email = account.user.email) : Accounts where
  rows := accounts.rows.map f
  keyed := by
    rw [map_same id]
    exact accounts.keyed
  unique := by
    rw [map_same email]
    exact accounts.unique

def hashed (userId : UUID) (hash : String) (account : Account) : Account :=
  if account.user.id = userId then { account with passwordHash := hash } else account

/-- `UPDATE users SET password_hash = $2 WHERE id = $1`. -/
def setHash (accounts : Accounts) (userId : UUID) (hash : String) : Accounts :=
  accounts.write (hashed userId hash) (fun _ => by unfold hashed; split <;> rfl)
    fun _ => by unfold hashed; split <;> rfl

def closed (userId : UUID) (account : Account) : Account :=
  { account with user := Users.disabledRow userId account.user }

theorem email_disabledRow {userId : UUID} {user : User} :
    (Users.disabledRow userId user).email = user.email := by
  unfold Users.disabledRow
  split <;> rfl

/-- `UPDATE users SET disabled_at = now(), … WHERE id = $1`. -/
def disable (accounts : Accounts) (userId : UUID) : Accounts :=
  accounts.write (closed userId) (fun _ => Users.disabledRow_id _ _) fun _ => email_disabledRow

/-- `SELECT … FROM users WHERE email = $1`. -/
def lookup (accounts : Accounts) (email : String) : Option Account :=
  accounts.rows.find? fun account => account.user.email = email

/-- `SELECT … FROM users WHERE id = $1`. -/
def find (accounts : Accounts) (userId : UUID) : Option Account :=
  accounts.rows.find? fun account => account.user.id = userId

/-- `INSERT INTO users …`, unless the id or the email is taken. -/
def insert (accounts : Accounts) (account : Account) : Option Accounts :=
  if id : account.user.id ∈ accounts.rows.map fun account => account.user.id then none
  else if email : account.user.email ∈ accounts.rows.map fun account => account.user.email then
    none
  else some {
    rows := accounts.rows ++ [account]
    keyed := by
      rw [List.map_append, List.map_singleton, List.nodup_append_comm, List.singleton_append]
      exact List.nodup_cons.mpr ⟨id, accounts.keyed⟩
    unique := by
      rw [List.map_append, List.map_singleton, List.nodup_append_comm, List.singleton_append]
      exact List.nodup_cons.mpr ⟨email, accounts.unique⟩ }

end Accounts

/-! ## The requests -/

/-- The statement of a sign-in that is next, with the row it has read. -/
inductive SignInStage
  | looking
  | rehashing (row : Account)
  | stamping (row : Account)
  | reading (row : Account)
  | refused
  /-- A cookie is signed. It carries no version if the row is gone by now. -/
  | signed (row : Account) (session : Option Session)

def SignInStage.row : SignInStage → Option Account
  | .rehashing row | .stamping row | .reading row | .signed row _ => some row
  | .looking | .refused => none

/-- A sign-in, and what hashing its password again would give. -/
structure SignIn where
  email : String
  password : String
  rehash : String
  stage : SignInStage := .looking

/-- `sign_in` with its `authenticate`, from one statement to the next. -/
def signIn (hasher : Hasher) (accounts : Accounts) (request : SignIn) : Accounts × SignIn :=
  match request.stage with
  | .looking =>
      match accounts.lookup (address request.email) with
      | none => (accounts, { request with stage := .refused })
      | some row =>
          if ¬ hasher.verify row.passwordHash request.password then
            (accounts, { request with stage := .refused })
          else if row.user.disabled then (accounts, { request with stage := .refused })
          else if hasher.checkNeedsRehash row.passwordHash then
            (accounts, { request with stage := .rehashing row })
          else (accounts, { request with stage := .stamping row })
  | .rehashing row =>
      (accounts.setHash row.user.id request.rehash, { request with stage := .stamping row })
  -- `last_login_at`, which is only ever listed.
  | .stamping row => (accounts, { request with stage := .reading row })
  | .reading row =>
      (accounts, { request with
        stage := .signed row ((accounts.find row.user.id).map fun now =>
          ⟨row.user.id, now.user.tokenVersion⟩) })
  | .refused | .signed _ _ => (accounts, request)

inductive AddUserStage
  | authenticating
  | clashing
  | inserting
  | answered (answer : Except ApiExc UUID)

/-- An account to be created, with the id and the hash that are made up for it. -/
structure AddUser where
  session : Option Session
  email : String
  displayName : String
  password : String
  role : Role
  userId : UUID
  hash : String
  stage : AddUserStage := .authenticating

/-- What Postgres says to an id or an email that is taken. -/
def taken : PyError := ⟨.runtimeError, "duplicate key value violates unique constraint", none⟩

def AddUser.account (request : AddUser) : Account where
  user := { id := request.userId, email := address request.email, role := request.role }
  displayName := request.displayName
  passwordHash := request.hash

/-- `add_user` with its `create_user`. -/
def addUser (accounts : Accounts) (request : AddUser) : Accounts × AddUser :=
  match request.stage with
  | .authenticating =>
      match requires .admin accounts.users request.session with
      | .error exc => (accounts, { request with stage := .answered (.error exc) })
      | .ok _ => (accounts, { request with stage := .clashing })
  | .clashing =>
      if (accounts.lookup (address request.email)).isSome then
        (accounts, { request with
          stage := .answered (abort 409 (request.email ++ " already has an account")) })
      else (accounts, { request with stage := .inserting })
  | .inserting =>
      if request.password.length < 12 then
        (accounts, { request with
          stage := .answered (abort 422 "password must be at least 12 characters") })
      else
        match accounts.insert request.account with
        | none => (accounts, { request with stage := .answered (.error (.raised taken)) })
        | some more => (more, { request with stage := .answered (.ok request.userId) })
  | .answered _ => (accounts, request)

/-- `disable_user`, which reads no other column. -/
def disableAccount (accounts : Accounts) (request : Users.DisableUser) :
    Accounts × Users.DisableUser :=
  (match request.stage with
    | .updating _ _ => accounts.disable request.userId
    | _ => accounts,
    (Users.disableUser accounts.users request).2)

/-- Any other request: what its guard said, if it has been asked. -/
structure Guarded where
  session : Option Session
  role : Role
  verdict : Option (Except ApiExc Principal) := none

def guard (accounts : Accounts) (request : Guarded) : Accounts × Guarded :=
  (accounts, { request with
    verdict := some (request.verdict.getD (requires request.role accounts.users request.session)) })

inductive Incoming
  | signIn (request : SignIn)
  | addUser (request : AddUser)
  | disableUser (request : Users.DisableUser)
  | guarded (request : Guarded)

def advance (hasher : Hasher) (accounts : Accounts) : Incoming → Accounts × Incoming
  | .signIn request =>
      ((signIn hasher accounts request).1, .signIn (signIn hasher accounts request).2)
  | .addUser request => ((addUser accounts request).1, .addUser (addUser accounts request).2)
  | .disableUser request =>
      ((disableAccount accounts request).1, .disableUser (disableAccount accounts request).2)
  | .guarded request => (accounts, .guarded (guard accounts request).2)

def Incoming.session : Incoming → Option Session
  | .signIn _ => none
  | .addUser request => request.session
  | .disableUser request => request.session
  | .guarded request => request.session

/-- A request before its first statement. What a password is hashed to is a hash of it. -/
def Incoming.Begins (hasher : Hasher) : Incoming → Prop
  | .signIn request =>
      request.stage = .looking ∧ hasher.verify request.rehash request.password = true
  | .addUser request =>
      request.stage = .authenticating ∧ hasher.verify request.hash request.password = true
  | .disableUser request => request.stage = .authenticating
  | .guarded request => request.verdict = none

abbrev Site := Scene Accounts Incoming

def Signed (c : Site) (request : SignIn) (session : Session) : Prop :=
  .signIn request ∈ c.requests ∧ ∃ row, request.stage = .signed row (some session)

/-! ## The cookies -/

def sessionMaxAgeS : Nat := 12 * 60 * 60

/-- A session, signed together with the second in which it was. -/
structure Cookie where
  session : Session
  signedAt : Nat

def Cookie.fresh (cookie : Cookie) (now : Nat) : Bool :=
  cookie.signedAt ≤ now && now ≤ cookie.signedAt + sessionMaxAgeS

/-- The session that the middleware hands on. -/
def Cookie.opened (cookie : Cookie) (now : Nat) : Option Session :=
  if cookie.fresh now then some cookie.session else none

/-- The session that the answer to a request is signed with. -/
def Incoming.carried : Incoming → Option Session
  | .signIn request =>
      match request.stage with
      | .signed _ session => session
      | _ => none
  | request => request.session

/-- The requests, the cookies that were given out, and the time. -/
structure Front where
  site : Site
  cookies : List Cookie := []
  clock : Nat

/-- A request comes in, with a cookie or none; one of those in progress runs its next statement;
an answer is given, which signs the session of its request anew; or time passes. -/
inductive Served (hasher : Hasher) : Front → Front → Prop
  | arrives {f : Front} {request : Incoming} (cookie : Option Cookie) :
      request.Begins hasher → (∀ k ∈ cookie, k ∈ f.cookies) →
      request.session = cookie.bind (·.opened f.clock) →
      Served hasher f { f with site := ⟨f.site.shared, f.site.requests ++ [request]⟩ }
  | moves {f : Front} (i : Nat) :
      Served hasher f { f with site := f.site.turn (advance hasher) i }
  | answers {f : Front} {request : Incoming} {session : Session} :
      request ∈ f.site.requests → request.carried = some session →
      Served hasher f { f with cookies := f.cookies ++ [⟨session, f.clock⟩] }
  | passes {f : Front} (now : Nat) : Served hasher f { f with clock := now }

/-- Whatever was served since the accounts were `start`. -/
def Serving (hasher : Hasher) (start : Accounts) (f : Front) : Prop :=
  ∃ now, Relation.ReflTransGen (Served hasher) { site := ⟨start, []⟩, clock := now } f

/-! ## What becomes of an account -/

/-- How an account lives on: its id, its email and its role stay, its hash is of the password it
was of, it stays disabled, and unless it is disabled so does its version. -/
structure Lives (hasher : Hasher) (a a' : Account) : Prop where
  id : a'.user.id = a.user.id
  email : a'.user.email = a.user.email
  role : a'.user.role = a.user.role
  disabled : a.user.disabled = true → a'.user.disabled = true
  version : a'.user.disabled = false → a'.user.tokenVersion = a.user.tokenVersion
  alike : Alike hasher a.passwordHash a'.passwordHash

/-- Every account lives on. -/
def Grows (hasher : Hasher) (accounts accounts' : Accounts) : Prop :=
  ∀ a ∈ accounts.rows, ∃ a' ∈ accounts'.rows, Lives hasher a a'

section Lives

variable {hasher : Hasher} {accounts accounts' : Accounts} {a a' a'' : Account}

theorem Lives.refl : Lives hasher a a :=
  ⟨rfl, rfl, rfl, fun is => is, fun _ => rfl, .refl⟩

theorem Lives.trans (first : Lives hasher a a') (later : Lives hasher a' a'') :
    Lives hasher a a'' where
  id := later.id.trans first.id
  email := later.email.trans first.email
  role := later.role.trans first.role
  disabled is := later.disabled (first.disabled is)
  version active := by
    have before : a'.user.disabled = false := by
      by_contra is
      rw [later.disabled (by simpa using is)] at active
      cases active
    exact (later.version active).trans (first.version before)
  alike := first.alike.trans later.alike

theorem Grows.refl : Grows hasher accounts accounts := fun a mem => ⟨a, mem, .refl⟩

theorem grows_write {f : Account → Account} {id email} (lives : ∀ a ∈ accounts.rows,
    Lives hasher a (f a)) : Grows hasher accounts (accounts.write f id email) :=
  fun a mem => ⟨f a, List.mem_map_of_mem mem, lives a mem⟩

theorem lives_closed {userId : UUID} : Lives hasher a (Accounts.closed userId a) := by
  refine ⟨Users.disabledRow_id _ _, Accounts.email_disabledRow, ?_, ?_, ?_, .refl⟩
  · show (Users.disabledRow userId a.user).role = _
    unfold Users.disabledRow
    split <;> rfl
  · intro is
    show (Users.disabledRow userId a.user).disabled = true
    unfold Users.disabledRow
    split
    · rfl
    · exact is
  · show (Users.disabledRow userId a.user).disabled = false →
      (Users.disabledRow userId a.user).tokenVersion = _
    unfold Users.disabledRow
    split
    · intro absurd
      cases absurd
    · exact fun _ => rfl

theorem lives_hashed {userId : UUID} {hash : String}
    (alike : a.user.id = userId → Alike hasher a.passwordHash hash) :
    Lives hasher a (Accounts.hashed userId hash a) := by
  unfold Accounts.hashed
  split
  next same => exact ⟨rfl, rfl, rfl, fun is => is, fun _ => rfl, alike same⟩
  next => exact .refl

theorem Accounts.ext_id (mem : a ∈ accounts.rows) (mem' : a' ∈ accounts.rows)
    (same : a.user.id = a'.user.id) : a = a' :=
  List.inj_on_of_nodup_map accounts.keyed mem mem' same

theorem Accounts.find_eq_some {userId : UUID} :
    accounts.find userId = some a ↔ a ∈ accounts.rows ∧ a.user.id = userId := by
  unfold Accounts.find
  constructor
  · intro found
    have is := List.find?_some found
    exact ⟨List.mem_of_find?_eq_some found, of_decide_eq_true is⟩
  · rintro ⟨mem, same⟩
    cases found : accounts.rows.find? fun account => account.user.id = userId with
    | none => exact absurd (decide_eq_true same) (List.find?_eq_none.mp found a mem)
    | some b =>
        have is := List.find?_some found
        rw [Accounts.ext_id (List.mem_of_find?_eq_some found) mem
          ((of_decide_eq_true is).trans same.symm)]

theorem Accounts.insert_eq_some (inserted : accounts.insert a = some accounts') :
    accounts'.rows = accounts.rows ++ [a] := by
  unfold Accounts.insert at inserted
  split_ifs at inserted
  cases inserted
  rfl

/-- What a session is told: its account is active, or is not. -/
theorem current_principal_eq {session : Session} (mem : a ∈ accounts.rows)
    (named : a.user.id = session.userId)
    (current : a.user.disabled = false → session.tokenVersion = a.user.tokenVersion) :
    currentPrincipal accounts.users (some session) =
      if a.user.disabled then abort 401 "account is not active"
      else .ok ⟨a.user.id, a.user.email, a.user.role⟩ := by
  have found : accounts.users.rows.find? (fun user => user.id = session.userId) =
      some a.user := by
    have := Accounts.find_eq_some.mpr ⟨mem, named⟩
    show (accounts.rows.map Account.user).find? _ = _
    rw [List.find?_map]
    exact congrArg (Option.map Account.user) this
  unfold currentPrincipal
  dsimp only
  rw [found]
  dsimp only
  cases disabled : a.user.disabled with
  | true => rfl
  | false => rw [if_neg (by simp), if_neg (by rw [current disabled]; simp), if_neg (by simp)]

theorem requires_ok {role : Role} {session : Option Session} {principal : Principal}
    (passed : requires role accounts.users session = .ok principal) :
    ∃ s, session = some s ∧ ∃ a ∈ accounts.rows, a.user.id = s.userId ∧
      a.user.disabled = false ∧ principal = ⟨a.user.id, a.user.email, a.user.role⟩ ∧
      role.rank ≤ a.user.role.rank := by
  unfold requires currentPrincipal at passed
  cases session with
  | none => cases passed
  | some s =>
      dsimp only at passed
      cases found : accounts.users.rows.find? (fun user => user.id = s.userId) with
      | none => rw [found] at passed; cases passed
      | some user =>
          rw [found] at passed
          dsimp only at passed
          obtain ⟨a, mem, rfl⟩ := List.mem_map.mp (List.mem_of_find?_eq_some found)
          have is := List.find?_some found
          cases disabled : a.user.disabled with
          | true => rw [disabled] at passed; cases passed
          | false =>
              rw [disabled, if_neg (by simp)] at passed
              by_cases version : a.user.tokenVersion ≠ s.tokenVersion
              · rw [if_pos version] at passed
                cases passed
              · rw [if_neg version] at passed
                by_cases rank : Principal.can ⟨a.user.id, a.user.email, a.user.role⟩ role
                · replace passed := passed.symm.trans (if_neg (not_not.mpr rank))
                  cases passed
                  exact ⟨s, rfl, a, mem, of_decide_eq_true is, disabled, rfl,
                    of_decide_eq_true rank⟩
                · replace passed := passed.symm.trans (if_pos rank)
                  cases passed

end Lives

/-! ## What a request has made sure of -/

/-- The row a sign-in read is of an account that lives on, which the password opened. -/
structure Proven (hasher : Hasher) (accounts : Accounts) (request : SignIn) (row : Account) :
    Prop where
  known : ∃ a ∈ accounts.rows, Lives hasher row a
  email : row.user.email = address request.email
  opens : hasher.verify row.passwordHash request.password = true

def ByAdmin (accounts : Accounts) (session : Option Session) : Prop :=
  ∃ s, session = some s ∧ ∃ a ∈ accounts.rows, a.user.id = s.userId ∧ a.user.role = .admin

/-- The session is of an admin, and not of the account that is to be disabled. -/
def ByOther (accounts : Accounts) (request : Users.DisableUser) : Prop :=
  ByAdmin accounts request.session ∧ ∀ s, request.session = some s → s.userId ≠ request.userId

/-- The session is of an account of this rank, and the principal is its owner. -/
def Admits (accounts : Accounts) (request : Guarded) (principal : Principal) : Prop :=
  ∃ s, request.session = some s ∧ ∃ a ∈ accounts.rows, a.user.id = s.userId ∧
    principal = ⟨a.user.id, a.user.email, a.user.role⟩ ∧ request.role.rank ≤ a.user.role.rank

/-- What a request in progress relies on, whatever is served beside it. -/
def Standing (hasher : Hasher) (start accounts : Accounts) : Incoming → Prop
  | .signIn request => hasher.verify request.rehash request.password = true ∧
      match request.stage with
      | .looking | .refused => True
      | .rehashing row | .stamping row | .reading row => Proven hasher accounts request row
      | .signed row session => Proven hasher accounts request row ∧
          ∃ now, (∃ a ∈ accounts.rows, Lives hasher now a) ∧ now.user.id = row.user.id ∧
            session = some ⟨now.user.id, now.user.tokenVersion⟩
  | .addUser request =>
      match request.stage with
      | .authenticating | .answered (.error _) => True
      | .clashing | .inserting | .answered (.ok _) => ByAdmin accounts request.session
  | .disableUser request =>
      match request.stage with
      | .authenticating | .answered (.error _) => True
      | .counting | .targeting _ | .updating _ _ => ByOther accounts request
      | .answered (.ok _) => ByOther accounts request ∧ ∀ a ∈ start.rows,
          a.user.id = request.userId → ∃ a' ∈ accounts.rows, Lives hasher a a' ∧
            a'.user.disabled = true
  | .guarded request => ∀ principal, request.verdict = some (.ok principal) →
      Admits accounts request principal

section Standing

variable {hasher : Hasher} {start accounts accounts' : Accounts}

theorem Proven.mono {request : SignIn} {row : Account} (grows : Grows hasher accounts accounts')
    (proven : Proven hasher accounts request row) : Proven hasher accounts' request row := by
  obtain ⟨a, mem, lives⟩ := proven.known
  obtain ⟨a', mem', on⟩ := grows a mem
  exact ⟨⟨a', mem', lives.trans on⟩, proven.email, proven.opens⟩

theorem ByAdmin.mono {session : Option Session} (grows : Grows hasher accounts accounts')
    (by_admin : ByAdmin accounts session) : ByAdmin accounts' session := by
  obtain ⟨s, is, a, mem, named, admin⟩ := by_admin
  obtain ⟨a', mem', lives⟩ := grows a mem
  exact ⟨s, is, a', mem', lives.id.trans named, lives.role.trans admin⟩

theorem ByOther.mono {request : Users.DisableUser} (grows : Grows hasher accounts accounts')
    (by_other : ByOther accounts request) : ByOther accounts' request :=
  ⟨by_other.1.mono grows, by_other.2⟩

/-- What others do leaves it standing. -/
theorem Standing.mono {request : Incoming} (grows : Grows hasher accounts accounts')
    (standing : Standing hasher start accounts request) :
    Standing hasher start accounts' request := by
  cases request with
  | signIn request =>
      obtain ⟨email, password, rehash, stage⟩ := request
      refine ⟨standing.1, ?_⟩
      have standing := standing.2
      cases stage with
      | looking | refused => trivial
      | rehashing row | stamping row | reading row => exact Proven.mono grows standing
      | signed row session =>
          obtain ⟨proven, now, ⟨a, mem, lives⟩, same, is⟩ := standing
          obtain ⟨a', mem', on⟩ := grows a mem
          exact ⟨proven.mono grows, now, ⟨a', mem', lives.trans on⟩, same, is⟩
  | addUser request =>
      obtain ⟨session, email, displayName, password, role, userId, hash, stage⟩ := request
      cases stage with
      | authenticating => trivial
      | clashing | inserting => exact ByAdmin.mono grows standing
      | answered answer =>
          cases answer with
          | error => trivial
          | ok => exact ByAdmin.mono grows standing
  | disableUser request =>
      obtain ⟨session, userId, stage⟩ := request
      cases stage with
      | authenticating => trivial
      | counting | targeting | updating => exact ByOther.mono grows standing
      | answered answer =>
          cases answer with
          | error => trivial
          | ok =>
              refine ⟨ByOther.mono grows standing.1, fun a mem named => ?_⟩
              obtain ⟨b, mem', lives, disabled⟩ := standing.2 a mem named
              obtain ⟨b', mem'', on⟩ := grows b mem'
              exact ⟨b', mem'', lives.trans on, on.disabled disabled⟩
  | guarded request =>
      intro principal admitted
      obtain ⟨s, is, a, mem, named, same, rank⟩ := standing principal admitted
      obtain ⟨a', mem', lives⟩ := grows a mem
      refine ⟨s, is, a', mem', lives.id.trans named, ?_, ?_⟩
      · rw [same, lives.id, lives.email, lives.role]
      · rwa [lives.role]

theorem sign_in_writes (hasher : Hasher) (accounts : Accounts) (request : SignIn) :
    (signIn hasher accounts request).1 = accounts ∨ ∃ row, request.stage = .rehashing row ∧
      (signIn hasher accounts request).1 = accounts.setHash row.user.id request.rehash := by
  unfold signIn
  cases request.stage with
  | looking =>
      dsimp only
      split
      · exact .inl rfl
      · split_ifs
        all_goals exact .inl rfl
  | rehashing row => exact .inr ⟨row, rfl, rfl⟩
  | _ => exact .inl rfl

theorem grows_set_hash {request : SignIn} {row : Account}
    (fresh : hasher.verify request.rehash request.password = true)
    (proven : Proven hasher accounts request row) :
    Grows hasher accounts (accounts.setHash row.user.id request.rehash) := by
  obtain ⟨a, mem, lives⟩ := proven.known
  refine grows_write fun b mem' => lives_hashed fun named => ?_
  have same : b = a := Accounts.ext_id mem' mem (named.trans lives.id.symm)
  rw [same]
  -- Another sign-in may have hashed it again since the row was read.
  exact lives.alike.symm.trans (.single proven.opens fresh)

theorem add_user_writes (accounts : Accounts) (request : AddUser) :
    (addUser accounts request).1 = accounts ∨
      ∃ more, request.stage = .inserting ∧ accounts.insert request.account = some more ∧
        addUser accounts request =
          (more, { request with stage := .answered (.ok request.userId) }) := by
  unfold addUser
  cases request.stage with
  | authenticating =>
      dsimp only
      split
      all_goals exact .inl rfl
  | clashing =>
      dsimp only
      split_ifs
      all_goals exact .inl rfl
  | inserting =>
      dsimp only
      split_ifs
      · exact .inl rfl
      · cases inserted : accounts.insert request.account with
        | none => exact .inl rfl
        | some more => exact .inr ⟨more, rfl, rfl, rfl⟩
  | answered => exact .inl rfl

theorem disable_account_writes (accounts : Accounts) (request : Users.DisableUser) :
    (disableAccount accounts request).1 = accounts ∨
      ∃ admins target, request.stage = .updating admins target ∧
        disableAccount accounts request = (accounts.disable request.userId,
          { request with stage := .answered (.ok ()) }) := by
  unfold disableAccount
  obtain ⟨session, userId, stage⟩ := request
  cases stage with
  | updating admins target => exact .inr ⟨admins, target, rfl, rfl⟩
  | _ => exact .inl rfl

theorem grows_disable {userId : UUID} : Grows hasher accounts (accounts.disable userId) :=
  grows_write fun _ _ => lives_closed

theorem grows_insert {a : Account} (inserted : accounts.insert a = some accounts') :
    Grows hasher accounts accounts' := by
  intro b mem
  refine ⟨b, ?_, .refl⟩
  rw [Accounts.insert_eq_some inserted]
  exact List.mem_append_left _ mem

theorem advance_grows {request : Incoming} (standing : Standing hasher start accounts request) :
    Grows hasher accounts (advance hasher accounts request).1 := by
  cases request with
  | signIn request =>
      show Grows hasher accounts (signIn hasher accounts request).1
      rcases sign_in_writes hasher accounts request with same | ⟨row, at_, same⟩
      · rw [same]
        exact .refl
      · rw [same]
        obtain ⟨fresh, proven⟩ := standing
        rw [at_] at proven
        exact grows_set_hash fresh proven
  | addUser request =>
      show Grows hasher accounts (addUser accounts request).1
      rcases add_user_writes accounts request with same | ⟨more, -, inserted, same⟩
      · rw [same]
        exact .refl
      · rw [same]
        exact grows_insert inserted
  | disableUser request =>
      show Grows hasher accounts (disableAccount accounts request).1
      rcases disable_account_writes accounts request with same | ⟨_, _, -, same⟩
      · rw [same]
        exact .refl
      · rw [same]
        exact grows_disable
  | guarded => exact .refl

/-- A sign-in goes on with what it has made sure of. -/
theorem sign_in_standing {request : SignIn}
    (standing : Standing hasher start accounts (.signIn request)) :
    Standing hasher start (signIn hasher accounts request).1
      (.signIn (signIn hasher accounts request).2) := by
  have grows : Grows hasher accounts (signIn hasher accounts request).1 :=
    advance_grows standing
  obtain ⟨fresh, standing⟩ := standing
  unfold signIn at grows ⊢
  obtain ⟨email, password, rehash, stage⟩ := request
  cases stage with
  | looking =>
      dsimp only
      cases found : accounts.lookup (address email) with
      | none => exact ⟨fresh, trivial⟩
      | some row =>
          have is := List.find?_some found
          dsimp only
          split
          · exact ⟨fresh, trivial⟩
          next right =>
            have opens : hasher.verify row.passwordHash password = true := not_not.mp right
            have known : ∃ a ∈ accounts.rows, Lives hasher row a :=
              ⟨row, List.mem_of_find?_eq_some found, .refl⟩
            split
            · exact ⟨fresh, trivial⟩
            · split
              · exact ⟨fresh, known, of_decide_eq_true is, opens⟩
              · exact ⟨fresh, known, of_decide_eq_true is, opens⟩
  | rehashing row =>
      exact ⟨fresh, Proven.mono grows ⟨standing.known, standing.email, standing.opens⟩⟩
  | stamping row => exact ⟨fresh, standing.known, standing.email, standing.opens⟩
  | reading row =>
      obtain ⟨a, mem, lives⟩ := standing.known
      have found : accounts.find row.user.id = some a := Accounts.find_eq_some.mpr ⟨mem, lives.id⟩
      refine ⟨fresh, ⟨⟨a, mem, lives⟩, standing.email, standing.opens⟩, a, ⟨a, mem, .refl⟩,
        lives.id, ?_⟩
      rw [found, Option.map_some, lives.id]
  | refused => exact ⟨fresh, trivial⟩
  | signed row session => exact ⟨fresh, standing⟩

theorem byAdmin_of_requires {session : Option Session} {principal : Principal}
    (passed : requires .admin accounts.users session = .ok principal) :
    ByAdmin accounts session ∧ ∀ s, session = some s → s.userId = principal.id := by
  obtain ⟨s, rfl, a, mem, named, -, rfl, rank⟩ := requires_ok passed
  refine ⟨⟨s, rfl, a, mem, named, ?_⟩, ?_⟩
  · cases role : a.user.role with
    | admin => rfl
    | viewer | approver => rw [role] at rank; exact absurd rank (by decide)
  · rintro _ ⟨⟩
    exact named.symm

theorem add_user_standing {request : AddUser}
    (standing : Standing hasher start accounts (.addUser request)) :
    Standing hasher start (addUser accounts request).1
      (.addUser (addUser accounts request).2) := by
  have grows : Grows hasher accounts (addUser accounts request).1 := advance_grows standing
  unfold addUser at grows ⊢
  obtain ⟨session, email, displayName, password, role, userId, hash, stage⟩ := request
  cases stage with
  | authenticating =>
      dsimp only
      cases passed : requires .admin accounts.users session with
      | error exc => trivial
      | ok principal => exact (byAdmin_of_requires passed).1
  | clashing =>
      dsimp only
      split_ifs
      · trivial
      · exact standing
  | inserting =>
      dsimp only at grows ⊢
      split_ifs at grows ⊢ with short
      · trivial
      · cases inserted : accounts.insert (AddUser.account ⟨session, email, displayName, password,
            role, userId, hash, .inserting⟩) with
        | none => trivial
        | some more =>
            have more_rows : Grows hasher accounts more := grows_insert inserted
            exact ByAdmin.mono more_rows standing
  | answered => exact standing

theorem disable_account_standing {request : Users.DisableUser}
    (lived : Grows hasher start accounts)
    (standing : Standing hasher start accounts (.disableUser request)) :
    Standing hasher start (disableAccount accounts request).1
      (.disableUser (disableAccount accounts request).2) := by
  unfold disableAccount Users.disableUser
  obtain ⟨session, userId, stage⟩ := request
  cases stage with
  | authenticating =>
      dsimp only
      cases passed : requires .admin accounts.users session with
      | error exc => trivial
      | ok principal =>
          obtain ⟨by_admin, named⟩ := byAdmin_of_requires passed
          dsimp only
          split_ifs with own
          · trivial
          · exact ⟨by_admin, fun s is same => own (same.symm.trans (named s is))⟩
  | counting => exact standing
  | targeting admins =>
      dsimp only
      split_ifs
      · trivial
      · exact standing
  | updating admins target =>
      have grown : Grows hasher accounts (accounts.disable userId) := grows_disable
      refine ⟨ByOther.mono grown standing, fun a mem named => ?_⟩
      obtain ⟨a', mem', lives⟩ := lived a mem
      refine ⟨Accounts.closed userId a', List.mem_map_of_mem mem', lives.trans lives_closed, ?_⟩
      show (Users.disabledRow userId a'.user).disabled = true
      rw [Users.disabledRow, if_pos (lives.id.trans named)]
      rfl
  | answered => exact standing

theorem guard_standing {request : Guarded}
    (standing : Standing hasher start accounts (.guarded request)) :
    Standing hasher start accounts (.guarded (guard accounts request).2) := by
  intro principal admitted
  unfold guard at admitted
  obtain ⟨session, role, verdict⟩ := request
  cases verdict with
  | some answer => exact standing principal admitted
  | none =>
      obtain ⟨s, is, a, mem, named, -, same, rank⟩ := requires_ok (Option.some.inj admitted)
      exact ⟨s, is, a, mem, named, same, rank⟩

/-- Whatever a request does next, it goes on with what it has made sure of. -/
theorem advance_standing {request : Incoming} (lived : Grows hasher start accounts)
    (standing : Standing hasher start accounts request) :
    Standing hasher start (advance hasher accounts request).1
      (advance hasher accounts request).2 := by
  cases request with
  | signIn => exact sign_in_standing standing
  | addUser => exact add_user_standing standing
  | disableUser => exact disable_account_standing lived standing
  | guarded => exact guard_standing standing

theorem begins_standing {request : Incoming} (begins : request.Begins hasher) :
    Standing hasher start accounts request := by
  cases request with
  | signIn request =>
      refine ⟨begins.2, ?_⟩
      rw [begins.1]
      trivial
  | addUser request => rw [Standing, begins.1]; trivial
  | disableUser request =>
      have begins : request.stage = .authenticating := begins
      rw [Standing, begins]
      trivial
  | guarded request =>
      intro principal admitted
      rw [show request.verdict = none from begins] at admitted
      cases admitted

end Standing

/-! ## Any interleaving -/

def Created (hasher : Hasher) (c : Site) (request : AddUser) (a : Account) : Prop :=
  .addUser request ∈ c.requests ∧ request.stage = .answered (.ok a.user.id) ∧
    Lives hasher request.account a

def Closed (c : Site) (request : Users.DisableUser) (a : Account) : Prop :=
  .disableUser request ∈ c.requests ∧ request.stage = .answered (.ok ()) ∧
    request.userId = a.user.id

/-- The row is of an account that was there from the start, or was created. -/
def Rooted (hasher : Hasher) (start : Accounts) (c : Site) (a : Account) : Prop :=
  (∃ b ∈ start.rows, Lives hasher b a) ∨ ∃ request, Created hasher c request a

/-- What holds of whatever was served since the accounts were `start`. -/
structure Held (hasher : Hasher) (start : Accounts) (c : Site) : Prop where
  lived : Grows hasher start c.shared
  standing : ∀ request ∈ c.requests, Standing hasher start c.shared request
  signed : ∀ request ∈ c.requests, ∀ session, request.session = some session →
    ∃ earlier, Signed c earlier session
  created : ∀ a ∈ c.shared.rows, Rooted hasher start c a
  read : ∀ request, .signIn request ∈ c.requests → ∀ row ∈ request.stage.row,
    Rooted hasher start c row
  closed : ∀ a ∈ c.shared.rows, a.user.disabled = true →
    (∃ b ∈ start.rows, b.user.id = a.user.id ∧ b.user.disabled = true) ∨
      ∃ request, Closed c request a

section Held

variable {hasher : Hasher} {start : Accounts} {c : Site}

/-- A request that has nothing left to do stays in its place. -/
theorem mem_turn {i : Nat} {request : Incoming} (mem : request ∈ c.requests)
    (done : (advance hasher c.shared request).2 = request) :
    request ∈ (c.turn (advance hasher) i).requests := by
  cases found : c.requests[i]? with
  | none => rwa [Scene.turn_of_none found]
  | some r =>
      rw [Scene.turn_of_some found]
      obtain ⟨j, at_j⟩ := List.mem_iff_getElem?.mp mem
      by_cases same : j = i
      · subst same
        cases found.symm.trans at_j
        rw [done]
        exact List.mem_iff_getElem?.mpr
          ⟨j, List.getElem?_set_self (List.getElem?_eq_some_iff.mp at_j).1⟩
      · exact List.mem_iff_getElem?.mpr ⟨j, by rw [List.getElem?_set_ne (Ne.symm same), at_j]⟩

theorem Signed.turn {i : Nat} {request : SignIn} {session : Session}
    (signed : Signed c request session) :
    Signed (c.turn (advance hasher) i) request session := by
  obtain ⟨mem, row, at_⟩ := signed
  refine ⟨mem_turn mem ?_, row, at_⟩
  simp only [advance, signIn, at_]

theorem Rooted.turn {i : Nat} {a : Account} (rooted : Rooted hasher start c a) :
    Rooted hasher start (c.turn (advance hasher) i) a := by
  refine rooted.imp_right fun ⟨request, mem, at_, lives⟩ => ⟨request, mem_turn mem ?_, at_, lives⟩
  simp only [advance, addUser, at_]

theorem Rooted.lives {a b : Account} (rooted : Rooted hasher start c a)
    (lives : Lives hasher a b) : Rooted hasher start c b := by
  rcases rooted with ⟨a₀, start_, lived⟩ | ⟨request, mem, at_, lived⟩
  · exact .inl ⟨a₀, start_, lived.trans lives⟩
  · exact .inr ⟨request, mem, lives.id ▸ at_, lived.trans lives⟩

theorem Closed.turn {i : Nat} {request : Users.DisableUser} {a : Account}
    (closed : Closed c request a) : Closed (c.turn (advance hasher) i) request a := by
  obtain ⟨mem, at_, is⟩ := closed
  refine ⟨mem_turn mem ?_, at_, is⟩
  simp only [advance, disableAccount, Users.disableUser, at_]

theorem session_advance {accounts : Accounts} (request : Incoming) :
    (advance hasher accounts request).2.session = request.session := by
  cases request with
  | signIn | guarded => rfl
  | addUser request =>
      show (addUser accounts request).2.session = request.session
      unfold addUser
      cases request.stage with
      | authenticating => dsimp only; split <;> rfl
      | clashing => dsimp only; split <;> rfl
      | inserting =>
          dsimp only
          split
          · rfl
          · split <;> rfl
      | answered => rfl
  | disableUser request =>
      show (Users.disableUser accounts.users request).2.session = request.session
      unfold Users.disableUser
      cases request.stage with
      | authenticating =>
          dsimp only
          split
          · rfl
          · split <;> rfl
      | targeting => dsimp only; split <;> rfl
      | _ => rfl

def identity (a : Account) : UUID × String × Role := (a.user.id, a.user.email, a.user.role)

/-- Where a row after a statement comes from, and what made it disabled. -/
structure FromRow (accounts : Accounts) (request : Incoming) (a b : Account) : Prop where
  there : b ∈ accounts.rows
  same : identity b = identity a
  closed : a.user.disabled = true → b.user.disabled = true ∨ ∃ d admins target,
    request = .disableUser d ∧ d.stage = .updating admins target ∧ d.userId = a.user.id

theorem identity_closed {userId : UUID} {b : Account} :
    identity (Accounts.closed userId b) = identity b := by
  unfold Accounts.closed Users.disabledRow
  split <;> rfl

theorem user_hashed {userId : UUID} {hash : String} {b : Account} :
    (Accounts.hashed userId hash b).user = b.user := by
  unfold Accounts.hashed
  split <;> rfl

/-- A row after a statement was there before, or is what an insert put there. -/
theorem row_origin {accounts : Accounts} {request : Incoming} {a : Account}
    (mem : a ∈ (advance hasher accounts request).1.rows) :
    (∃ b, FromRow accounts request a b) ∨ ∃ n, request = .addUser n ∧ a = n.account ∧
      (advance hasher accounts request).2 =
        .addUser { n with stage := .answered (.ok n.userId) } := by
  have unwritten : ∀ {a}, a ∈ accounts.rows → ∃ b, FromRow accounts request a b := fun mem =>
    ⟨_, mem, rfl, fun is => .inl is⟩
  cases request with
  | signIn request =>
      rcases sign_in_writes hasher accounts request with same | ⟨row, -, same⟩
      · exact .inl (unwritten (by rwa [advance, same] at mem))
      · rw [advance, same] at mem
        obtain ⟨b, there, rfl⟩ := List.mem_map.mp mem
        refine .inl ⟨b, there, ?_, fun is => .inl ?_⟩
        · simp only [identity, user_hashed]
        · rwa [user_hashed] at is
  | addUser request =>
      rcases add_user_writes accounts request with same | ⟨more, -, inserted, same⟩
      · exact .inl (unwritten (by rwa [advance, same] at mem))
      · rw [advance, same, Accounts.insert_eq_some inserted] at mem
        rcases List.mem_append.mp mem with before | new
        · exact .inl (unwritten before)
        · exact .inr ⟨request, rfl, List.mem_singleton.mp new, by rw [advance, same]⟩
  | disableUser request =>
      rcases disable_account_writes accounts request with same | ⟨admins, target, at_, same⟩
      · exact .inl (unwritten (by rwa [advance, same] at mem))
      · rw [advance, same] at mem
        obtain ⟨b, there, rfl⟩ := List.mem_map.mp mem
        refine .inl ⟨b, there, identity_closed.symm, fun is => ?_⟩
        by_cases named : b.user.id = request.userId
        · exact .inr ⟨request, admins, target, rfl, at_,
            (named.symm.trans (Users.disabledRow_id _ _).symm)⟩
        · refine .inl ?_
          have other : Users.disabledRow request.userId b.user = b.user := if_neg named
          rwa [Accounts.closed, other] at is
  | guarded request => exact .inl (unwritten mem)

/-- The row of a sign-in is one that was there when it was read. -/
theorem row_sign_in {accounts : Accounts} {request : SignIn} {row : Account}
    (at_ : row ∈ (signIn hasher accounts request).2.stage.row) :
    row ∈ request.stage.row ∨ row ∈ accounts.rows := by
  obtain ⟨email, password, rehash, stage⟩ := request
  cases stage with
  | looking =>
      unfold signIn at at_
      dsimp only at at_
      split at at_
      · cases at_
      next row' found =>
        refine .inr ?_
        split_ifs at at_ <;> cases at_ <;> exact List.mem_of_find?_eq_some found
  | refused => cases at_
  | _ => exact .inl at_

/-- The request at `i` stands in its place after its turn. -/
theorem moved_mem {i : Nat} {request : Incoming} (found : c.requests[i]? = some request) :
    (advance hasher c.shared request).2 ∈ (c.turn (advance hasher) i).requests := by
  rw [Scene.turn_of_some found]
  exact List.mem_iff_getElem?.mpr ⟨i, List.getElem?_set_self (List.getElem?_eq_some_iff.mp found).1⟩

theorem held_turn (held : Held hasher start c) (i : Nat) :
    Held hasher start (c.turn (advance hasher) i) := by
  cases found : c.requests[i]? with
  | none => rwa [Scene.turn_of_none found]
  | some request =>
      have own := held.standing request (List.mem_of_getElem? found)
      have grows : Grows hasher c.shared (advance hasher c.shared request).1 := advance_grows own
      have shared : (c.turn (advance hasher) i).shared = (advance hasher c.shared request).1 := by
        rw [Scene.turn_of_some found]
      refine ⟨?_, ?_, ?_, ?_, ?_, ?_⟩
      · rw [shared]
        intro a mem
        obtain ⟨b, there, lives⟩ := held.lived a mem
        obtain ⟨b', there', on⟩ := grows b there
        exact ⟨b', there', lives.trans on⟩
      · rw [shared]
        intro r mem
        obtain ⟨j, at_j⟩ := List.mem_iff_getElem?.mp mem
        rcases Scene.of_turn found at_j with ⟨-, rfl⟩ | ⟨-, before⟩
        · exact advance_standing held.lived own
        · exact (held.standing r (List.mem_of_getElem? before)).mono grows
      · intro r mem session with_
        have earlier : ∃ earlier, Signed c earlier session := by
          obtain ⟨j, at_j⟩ := List.mem_iff_getElem?.mp mem
          rcases Scene.of_turn found at_j with ⟨-, rfl⟩ | ⟨-, before⟩
          · rw [session_advance] at with_
            exact held.signed request (List.mem_of_getElem? found) session with_
          · exact held.signed r (List.mem_of_getElem? before) session with_
        obtain ⟨earlier, signed⟩ := earlier
        exact ⟨earlier, signed.turn⟩
      · intro a mem
        rw [shared] at mem
        rcases row_origin mem with ⟨b, there, same, -⟩ | ⟨n, rfl, rfl, moved⟩
        · obtain ⟨a', mem', lives⟩ := grows b there
          have one : a' = a :=
            Accounts.ext_id mem' mem (lives.id.trans (congrArg Prod.fst same))
          exact ((held.created b there).lives (one ▸ lives)).turn
        · exact .inr ⟨{ n with stage := .answered (.ok n.userId) }, moved ▸ moved_mem found,
            rfl, .refl⟩
      · intro r mem row at_
        obtain ⟨j, at_j⟩ := List.mem_iff_getElem?.mp mem
        rcases Scene.of_turn found at_j with ⟨-, moved⟩ | ⟨-, before⟩
        · cases request with
          | signIn request =>
              cases Incoming.signIn.inj moved
              rcases row_sign_in at_ with before | there
              · exact (held.read request (List.mem_of_getElem? found) row before).turn
              · exact (held.created row there).turn
          | addUser | disableUser | guarded => cases moved
        · exact (held.read r (List.mem_of_getElem? before) row at_).turn
      · intro a mem disabled
        rw [shared] at mem
        rcases row_origin mem with ⟨b, there, same, closed⟩ | ⟨n, rfl, rfl, -⟩
        · have id : b.user.id = a.user.id := congrArg Prod.fst same
          rcases closed disabled with before | ⟨d, admins, target, rfl, at_, named⟩
          · rcases held.closed b there before with ⟨b₀, start_, is, disabled₀⟩ | ⟨r, closed⟩
            · exact .inl ⟨b₀, start_, is.trans id, disabled₀⟩
            · have closed : Closed c r a := ⟨closed.1, closed.2.1, closed.2.2.trans id⟩
              exact .inr ⟨r, closed.turn⟩
          · have moved : .disableUser (disableAccount c.shared d).2 ∈
                (c.turn (advance hasher) i).requests := moved_mem found
            refine .inr ⟨_, moved, ?_, ?_⟩
            · simp only [disableAccount, Users.disableUser, at_]
            · simpa only [disableAccount, Users.disableUser, at_] using named
        · cases disabled

theorem held_arrives {request : Incoming} (held : Held hasher start c)
    (begins : request.Begins hasher)
    (with_ : ∀ session, request.session = some session → ∃ earlier, Signed c earlier session) :
    Held hasher start ⟨c.shared, c.requests ++ [request]⟩ := by
  have signed : ∀ {session}, (∃ earlier, Signed c earlier session) →
      ∃ earlier, Signed ⟨c.shared, c.requests ++ [request]⟩ earlier session :=
    fun ⟨earlier, mem, at_⟩ => ⟨earlier, List.mem_append_left _ mem, at_⟩
  have rooted : ∀ {a}, Rooted hasher start c a →
      Rooted hasher start ⟨c.shared, c.requests ++ [request]⟩ a := fun rooted =>
    rooted.imp_right fun ⟨r, before, created⟩ => ⟨r, List.mem_append_left _ before, created⟩
  refine ⟨held.lived, fun r mem => ?_, fun r mem session is => ?_,
    fun a mem => rooted (held.created a mem), fun r mem row at_ => ?_, fun a mem disabled => ?_⟩
  · rcases List.mem_append.mp mem with before | new
    · exact held.standing r before
    · rw [List.mem_singleton.mp new]
      exact begins_standing begins
  · rcases List.mem_append.mp mem with before | new
    · exact signed (held.signed r before session is)
    · rw [List.mem_singleton.mp new] at is
      exact signed (with_ session is)
  · rcases List.mem_append.mp mem with before | new
    · exact rooted (held.read r before row at_)
    · rw [← List.mem_singleton.mp new] at begins
      rw [begins.1] at at_
      cases at_
  · exact (held.closed a mem disabled).imp_right fun ⟨r, before, closed⟩ =>
      ⟨r, List.mem_append_left _ before, closed⟩

theorem held_start (start : Accounts) : Held hasher start ⟨start, []⟩ :=
  ⟨.refl, fun _ absurd => (List.not_mem_nil absurd).elim,
    fun _ absurd => (List.not_mem_nil absurd).elim, fun a mem => .inl ⟨a, mem, .refl⟩,
    fun _ absurd => (List.not_mem_nil absurd).elim,
    fun a mem disabled => .inl ⟨a, mem, rfl, disabled⟩⟩

/-- At any time it holds, and every cookie is of a session that was signed. -/
theorem held_serving {f : Front} (serving : Serving hasher start f) :
    Held hasher start f.site ∧ ∀ k ∈ f.cookies, ∃ earlier, Signed f.site earlier k.session := by
  obtain ⟨now, served⟩ := serving
  induction served with
  | refl => exact ⟨held_start start, fun _ absurd => (List.not_mem_nil absurd).elim⟩
  | tail _ step before =>
      obtain ⟨held, signed⟩ := before
      cases step with
      | arrives cookie begins among with_ =>
          refine ⟨held_arrives held begins fun session is => ?_, fun k mem => ?_⟩
          · rw [with_] at is
            obtain ⟨k, given, opened⟩ := Option.bind_eq_some_iff.mp is
            unfold Cookie.opened at opened
            split_ifs at opened
            cases opened
            exact signed k (among k given)
          · obtain ⟨earlier, there, at_⟩ := signed k mem
            exact ⟨earlier, List.mem_append_left _ there, at_⟩
      | moves i =>
          exact ⟨held_turn held i, fun k mem => (signed k mem).imp fun _ before => before.turn⟩
      | @answers request session mem carries =>
          refine ⟨held, fun k given => ?_⟩
          rcases List.mem_append.mp given with old | new
          · exact signed k old
          · rw [List.mem_singleton.mp new]
            cases request with
            | signIn request =>
                refine ⟨request, mem, ?_⟩
                unfold Incoming.carried at carries
                dsimp only at carries
                split at carries
                next row s at_ => exact ⟨row, carries ▸ at_⟩
                next => cases carries
            | addUser | disableUser | guarded => exact held.signed _ mem session carries
      | passes => exact ⟨held, signed⟩

end Held

/-! ## Who is let in, and by whom accounts come and go -/

/-- The sign-in presented a password that verified the hash of the account, as it then was. -/
def Presented (hasher : Hasher) (start : Accounts) (c : Site) (request : SignIn) (a : Account) :
    Prop :=
  ∃ row, request.stage.row = some row ∧ Rooted hasher start c row ∧ Lives hasher row a ∧
    row.user.email = address request.email ∧
      hasher.verify row.passwordHash request.password = true

/-- The request came with a session of an admin's account, which was signed for whoever
presented its password. -/
def Delegated (hasher : Hasher) (start : Accounts) (c : Site) (session : Option Session) : Prop :=
  ∃ s request, session = some s ∧ Signed c request s ∧ ∃ admin ∈ c.shared.rows,
    admin.user.id = s.userId ∧ admin.user.role = .admin ∧ Presented hasher start c request admin

/-- How accounts and sessions stand since the accounts were `start`. -/
structure Governed (hasher : Hasher) (start : Accounts) (f : Front) : Prop where
  /-- Whoever a session was signed for presented the password of its account; its cookie is
  accepted for that account until it is disabled, and while it is fresh. -/
  sessions : ∀ k ∈ f.cookies, ∃ request, Signed f.site request k.session ∧
    ∃ a ∈ f.site.shared.rows, a.user.id = k.session.userId ∧
      Presented hasher start f.site request a ∧
      ∀ now, currentPrincipal f.site.shared.users (k.opened now) =
        if ¬ k.fresh now then abort 401 "not signed in"
        else if a.user.disabled then abort 401 "account is not active"
        else .ok ⟨a.user.id, a.user.email, a.user.role⟩
  /-- Whoever any endpoint let in had presented that password, of an account of the rank. -/
  admitted : ∀ request principal, .guarded request ∈ f.site.requests →
    request.verdict = some (.ok principal) → ∃ s earlier, request.session = some s ∧
      Signed f.site earlier s ∧ ∃ a ∈ f.site.shared.rows,
        principal = ⟨a.user.id, a.user.email, a.user.role⟩ ∧
        request.role.rank ≤ a.user.role.rank ∧ Presented hasher start f.site earlier a
  /-- No account is lost, or changes hands or role. -/
  lived : Grows hasher start f.site.shared
  created : ∀ a ∈ f.site.shared.rows, (∃ b ∈ start.rows, Lives hasher b a) ∨
    ∃ request, Created hasher f.site request a ∧ Delegated hasher start f.site request.session
  disabled : ∀ a ∈ f.site.shared.rows, a.user.disabled = true →
    (∃ b ∈ start.rows, Lives hasher b a ∧ b.user.disabled = true) ∨
      ∃ request, Closed f.site request a ∧ Delegated hasher start f.site request.session ∧
        ∀ s, request.session = some s → s.userId ≠ a.user.id
  /-- What was disabled stays so. -/
  revoked : ∀ request, .disableUser request ∈ f.site.requests →
    request.stage = .answered (.ok ()) → ∀ b ∈ start.rows, b.user.id = request.userId →
      ∃ a ∈ f.site.shared.rows, Lives hasher b a ∧ a.user.disabled = true

section

variable {hasher : Hasher} {start : Accounts} {c : Site}

/-- The account of a session, as it is now. -/
theorem signed_account (held : Held hasher start c) {request : SignIn} {session : Session}
    (signed : Signed c request session) : ∃ a ∈ c.shared.rows, a.user.id = session.userId ∧
      Presented hasher start c request a ∧
      (a.user.disabled = false → session.tokenVersion = a.user.tokenVersion) := by
  obtain ⟨mem, row, at_⟩ := signed
  have rooted : Rooted hasher start c row := held.read request mem row (by rw [at_]; rfl)
  have standing := (held.standing _ mem).2
  rw [at_] at standing
  obtain ⟨⟨⟨a, there, lives⟩, email, opens⟩, now, ⟨a', there', on⟩, same, is⟩ := standing
  cases is
  have one : a' = a := Accounts.ext_id there' there (on.id.trans (same.trans lives.id.symm))
  subst one
  exact ⟨a', there', on.id, ⟨row, by rw [at_]; rfl, rooted, lives, email, opens⟩,
    fun active => (on.version active).symm⟩

theorem delegated_of_byAdmin (held : Held hasher start c) {request : Incoming}
    (mem : request ∈ c.requests) (by_admin : ByAdmin c.shared request.session) :
    Delegated hasher start c request.session := by
  obtain ⟨s, is, admin, there, named, role⟩ := by_admin
  obtain ⟨earlier, signed⟩ := held.signed request mem s is
  obtain ⟨a, there', named', presented, -⟩ := signed_account held signed
  have one : a = admin := Accounts.ext_id there' there (named'.trans named.symm)
  subst one
  exact ⟨s, earlier, is, signed, a, there, named, role, presented⟩

theorem lives_of_id (held : Held hasher start c) {a b : Account} (mem : a ∈ c.shared.rows)
    (start_ : b ∈ start.rows) (same : b.user.id = a.user.id) : Lives hasher b a := by
  obtain ⟨a', mem', lives⟩ := held.lived b start_
  rwa [Accounts.ext_id mem mem' (same.symm.trans lives.id.symm)]

/-- However the requests interleave, and whatever cookie each of them comes with. -/
theorem accounts_governed {f : Front} (serving : Serving hasher start f) :
    Governed hasher start f := by
  obtain ⟨held, given⟩ := held_serving serving
  refine ⟨fun k mem => ?_, fun request principal mem verdict => ?_, held.lived,
    fun a mem => ?_, fun a mem disabled => ?_, fun request mem at_ b start_ named => ?_⟩
  · obtain ⟨request, signed⟩ := given k mem
    obtain ⟨a, there, named, presented, current⟩ := signed_account held signed
    refine ⟨request, signed, a, there, named, presented, fun now => ?_⟩
    cases fresh : k.fresh now with
    | false => rw [Cookie.opened, fresh]; rfl
    | true =>
        rw [Cookie.opened, fresh, if_pos rfl, current_principal_eq there named current,
          if_neg (not_not.mpr rfl)]
  · obtain ⟨s, is, a, there, named, same, rank⟩ := held.standing _ mem principal verdict
    obtain ⟨earlier, signed⟩ := held.signed _ mem s is
    obtain ⟨b, there', named', presented, -⟩ := signed_account held signed
    have one : b = a := Accounts.ext_id there' there (named'.trans named.symm)
    subst one
    exact ⟨s, earlier, is, signed, b, there, same, rank, presented⟩
  · rcases held.created a mem with start_ | ⟨request, created⟩
    · exact .inl start_
    · refine .inr ⟨request, created, ?_⟩
      have standing := held.standing _ created.1
      rw [Standing, created.2.1] at standing
      exact delegated_of_byAdmin held created.1 standing
  · rcases held.closed a mem disabled with ⟨b, start_, same, before⟩ | ⟨request, closed⟩
    · exact .inl ⟨b, start_, lives_of_id held mem start_ same, before⟩
    · have standing := held.standing _ closed.1
      rw [Standing, closed.2.1] at standing
      refine .inr ⟨request, closed, delegated_of_byAdmin held closed.1 standing.1.1, ?_⟩
      rw [← closed.2.2]
      exact standing.1.2
  · have standing := held.standing _ mem
    rw [Standing, at_] at standing
    exact standing.2 b start_ named

end

/-! ## A sign-in that is overtaken -/

section

variable {hasher : Hasher} {start : Accounts} {f : Front}

theorem Serving.next {f' : Front} (serving : Serving hasher start f)
    (served : Served hasher f f') : Serving hasher start f' :=
  serving.imp fun _ before => before.tail served

theorem Serving.play (serving : Serving hasher start f) (schedule : List Nat) :
    Serving hasher start { f with site := Scene.play (advance hasher) schedule f.site } := by
  induction schedule generalizing f with
  | nil => exact serving
  | cons i rest ih => exact ih (serving.next (.moves i))

/-- The answer to one of the requests. -/
theorem Serving.answer (serving : Serving hasher start f) (session : Session)
    (carried : f.site.requests.any fun request => request.carried = some session) :
    Serving hasher start { f with cookies := f.cookies ++ [⟨session, f.clock⟩] } := by
  obtain ⟨request, mem, is⟩ := List.any_eq_true.mp carried
  exact serving.next (.answers mem (of_decide_eq_true is))

end

def plainHasher : Hasher where
  verify hash password := hash = "argon2:" ++ password
  checkNeedsRehash _ := false

/-- An admin, and someone who is signing in. -/
def staff : Accounts where
  rows := [
    ⟨{ id := ⟨1⟩, email := "ada@example.com", role := .admin }, "Ada", "argon2:ada's own"⟩,
    ⟨{ id := ⟨2⟩, email := "bo@example.com", role := .approver }, "Bo", "argon2:bo's own"⟩]
  keyed := by decide
  unique := by decide

def adaSignsIn : SignIn := ⟨"Ada@example.com ", "ada's own", "argon2:ada's own", .looking⟩

def boSignsIn : SignIn := ⟨"bo@example.com", "bo's own", "argon2:bo's own", .looking⟩

def adaDisablesBo : Users.DisableUser := { session := some ⟨⟨1⟩, 1⟩, userId := ⟨2⟩ }

/-- Ada is signed in, and Bo has presented his password. -/
def halfway : Site := Scene.play (advance plainHasher) [0, 0, 0, 1, 1]
  ⟨staff, [.signIn adaSignsIn, .signIn boSignsIn]⟩

/-- A minute later Ada disables Bo, and only then is his session signed. -/
def overtaken : Front where
  site := Scene.play (advance plainHasher) [2, 2, 2, 2, 1]
    ⟨halfway.shared, halfway.requests ++ [.disableUser adaDisablesBo]⟩
  cookies := [⟨⟨⟨1⟩, 1⟩, 0⟩, ⟨⟨⟨2⟩, 2⟩, 60⟩]
  clock := 60

theorem overtaken_serving : Serving plainHasher staff overtaken := by
  have opened : Serving plainHasher staff { site := ⟨staff, []⟩, clock := 0 } := ⟨0, .refl⟩
  have ada := opened.next (@Served.arrives _ _ (.signIn adaSignsIn) none ⟨rfl, by decide⟩
    (fun _ absurd => by cases absurd) rfl)
  have both := ada.next (@Served.arrives _ _ (.signIn boSignsIn) none ⟨rfl, by decide⟩
    (fun _ absurd => by cases absurd) rfl)
  have signed := (both.play [0, 0, 0, 1, 1]).answer ⟨⟨1⟩, 1⟩ (by decide +kernel)
  have disabling := (signed.next (.passes 60)).next (@Served.arrives _ _ (.disableUser adaDisablesBo)
    (some ⟨⟨⟨1⟩, 1⟩, 0⟩) rfl (fun _ same => by cases same; exact List.mem_cons_self) rfl)
  exact (disabling.play [2, 2, 2, 2, 1]).answer ⟨⟨2⟩, 2⟩ (by decide +kernel)

theorem accounts_governed_overtaken : Governed plainHasher staff overtaken ∧
    currentPrincipal overtaken.site.shared.users
      ((Cookie.mk ⟨⟨2⟩, 2⟩ 60).opened 61) = abort 401 "account is not active" := by
  have governed := accounts_governed overtaken_serving
  have away : (currentPrincipal overtaken.site.shared.users
      ((Cookie.mk ⟨⟨2⟩, 2⟩ 60).opened 61)).isOk = false := by decide +kernel
  have given : Cookie.mk ⟨⟨2⟩, 2⟩ 60 ∈ overtaken.cookies := by simp [overtaken]
  generalize overtaken = f at governed away given ⊢
  obtain ⟨-, -, a, -, -, -, told⟩ := governed.sessions _ given
  refine ⟨governed, ?_⟩
  rw [told 61] at away ⊢
  have fresh : (Cookie.mk ⟨⟨2⟩, 2⟩ 60).fresh 61 = true := rfl
  rw [fresh, if_neg (not_not.mpr rfl)] at away ⊢
  cases disabled : a.user.disabled with
  | true => rfl
  | false =>
      rw [disabled] at away
      cases away

end KuWarden.Api
