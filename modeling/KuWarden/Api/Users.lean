import KuWarden.Process.Interleaving
import KuWarden.State

/-!
Accounts, and the request that disables one.

A request reads and writes `users` one statement at a time, each on its own: nothing holds a
row between the count of the admins and the update.
-/
namespace KuWarden.Api

open Process

inductive Role
  | viewer | approver | admin
  deriving DecidableEq, Repr

namespace Role

def value : Role → String
  | .viewer => "viewer"
  | .approver => "approver"
  | .admin => "admin"

def rank : Role → Nat
  | .viewer => 0
  | .approver => 1
  | .admin => 2

end Role

/-- A row of `users`. -/
structure User where
  id : UUID
  email : String
  role : Role
  tokenVersion : Int := 1
  disabled : Bool := false
  deriving DecidableEq

/-- `users`, keyed by its ids. -/
structure Users where
  rows : List User
  keyed : (rows.map User.id).Nodup

structure Principal where
  id : UUID
  email : String
  role : Role
  deriving DecidableEq

def Principal.can (principal : Principal) (required : Role) : Bool :=
  principal.role.rank ≥ required.rank

/-- What a signed session cookie carries. -/
structure Session where
  userId : UUID
  tokenVersion : Int
  deriving DecidableEq

def currentPrincipal (users : Users) (session : Option Session) : Except ApiExc Principal :=
  match session with
  | none => abort 401 "not signed in"
  | some session =>
      match users.rows.find? fun user => user.id = session.userId with
      | none => abort 401 "account is not active"
      | some user =>
          if user.disabled then abort 401 "account is not active"
          else if user.tokenVersion ≠ session.tokenVersion then
            abort 401 "session has been revoked"
          else .ok ⟨user.id, user.email, user.role⟩

/-- The guard of an endpoint that needs a role. -/
def requires (role : Role) (users : Users) (session : Option Session) :
    Except ApiExc Principal := do
  let principal ← currentPrincipal users session
  if ¬ principal.can role then
    abort 403 ("this action requires the " ++ role.value ++ " role; " ++ principal.email ++
      " is " ++ principal.role.value)
  else return principal

namespace Users

def isActiveAdmin (user : User) : Bool := user.role = .admin ∧ user.disabled = false

/-- `SELECT count(*) FROM users WHERE role = 'admin' AND disabled_at IS NULL`. -/
def activeAdmins (users : Users) : Nat := users.rows.countP isActiveAdmin

/-- `SELECT 1 FROM users WHERE id = $1 AND role = 'admin' AND disabled_at IS NULL`. -/
def adminListed (users : Users) (userId : UUID) : Bool :=
  users.rows.any fun user => user.id = userId ∧ isActiveAdmin user

def disabled (user : User) : User :=
  { user with disabled := true, tokenVersion := user.tokenVersion + 1 }

def disabledRow (userId : UUID) (user : User) : User :=
  if user.id = userId then disabled user else user

theorem disabledRow_id (userId : UUID) (user : User) :
    (disabledRow userId user).id = user.id := by
  unfold disabledRow
  split <;> rfl

theorem map_id_disabledRow (userId : UUID) (rows : List User) :
    (rows.map (disabledRow userId)).map User.id = rows.map User.id := by
  rw [List.map_map]
  exact List.map_congr_left fun user _ => disabledRow_id userId user

/-- `UPDATE users SET disabled_at = now(), … WHERE id = $1`. -/
def disable (users : Users) (userId : UUID) : Users where
  rows := users.rows.map (disabledRow userId)
  keyed := by
    rw [map_id_disabledRow]
    exact users.keyed

/-- The statement a request runs next, with what it has read. -/
inductive Stage
  | authenticating
  | counting
  | targeting (admins : Nat)
  | updating (admins : Nat) (targetIsAdmin : Bool)
  | answered (answer : Except ApiExc Unit)

structure DisableUser where
  session : Option Session
  userId : UUID
  stage : Stage := .authenticating

/-- `disable_user`, from one statement to the next. -/
def disableUser (users : Users) (request : DisableUser) : Users × DisableUser :=
  match request.stage with
  | .authenticating =>
      match requires .admin users request.session with
      | .error exc => (users, { request with stage := .answered (.error exc) })
      | .ok principal =>
          if request.userId = principal.id then
            (users, { request with
              stage := .answered (abort 409 "you cannot disable your own account") })
          else (users, { request with stage := .counting })
  | .counting => (users, { request with stage := .targeting users.activeAdmins })
  | .targeting admins =>
      let targetIsAdmin := users.adminListed request.userId
      if targetIsAdmin ∧ admins ≤ 1 then
        (users, { request with
          stage := .answered (abort 409 "this is the only active admin") })
      else (users, { request with stage := .updating admins targetIsAdmin })
  | .updating _ _ =>
      (users.disable request.userId, { request with stage := .answered (.ok ()) })
  | .answered _ => (users, request)

/-! ## The last admin -/

variable {users : Users} {userId : UUID} {request : DisableUser}

theorem is_active_admin_disabled (user : User) : isActiveAdmin (disabled user) = false := by
  simp [isActiveAdmin, disabled]

theorem active_of_disabledRow {user : User}
    (active : isActiveAdmin (disabledRow userId user) = true) :
    isActiveAdmin user = true := by
  unfold disabledRow at active
  split at active
  · rw [is_active_admin_disabled] at active
    cases active
  · exact active

/-- Nobody becomes an admin by the disabling of an account. -/
theorem admin_listed_disable {target : UUID}
    (absent : users.adminListed userId = false) :
    (users.disable target).adminListed userId = false := by
  unfold adminListed at absent ⊢
  rw [List.any_eq_false] at absent ⊢
  intro user mem listed
  obtain ⟨row, found, rfl⟩ := List.mem_map.mp mem
  obtain ⟨named, active⟩ := of_decide_eq_true listed
  rw [disabledRow_id] at named
  exact absent row found (decide_eq_true ⟨named, active_of_disabledRow active⟩)

/-- Where the account is no active admin, its disabling leaves every admin. -/
theorem active_admins_disable_other (absent : users.adminListed userId = false) :
    (users.disable userId).activeAdmins = users.activeAdmins := by
  unfold adminListed at absent
  rw [List.any_eq_false] at absent
  show (users.rows.map (disabledRow userId)).countP isActiveAdmin = _
  rw [List.countP_map]
  refine List.countP_congr fun user mem => ?_
  constructor
  · exact active_of_disabledRow
  · intro active
    have other : user.id ≠ userId := fun named =>
      absent user mem (decide_eq_true ⟨named, active⟩)
    rw [Function.comp, disabledRow, if_neg other]
    exact active

theorem active_admins_disable (users : Users) (userId : UUID) :
    users.activeAdmins ≤ (users.disable userId).activeAdmins + 1 := by
  obtain ⟨rows, keyed⟩ := users
  show rows.countP isActiveAdmin ≤
    (rows.map (disabledRow userId)).countP isActiveAdmin + 1
  induction rows with
  | nil => simp
  | cons user rest ih =>
      obtain ⟨fresh, keyed⟩ := List.nodup_cons.mp keyed
      by_cases named : user.id = userId
      · have untouched : rest.map (disabledRow userId) = rest := by
          conv_rhs => rw [← List.map_id rest]
          refine List.map_congr_left fun other mem => if_neg fun same => fresh ?_
          exact List.mem_map.mpr ⟨other, mem, same.trans named.symm⟩
        rw [List.map_cons, untouched, List.countP_cons, List.countP_cons]
        split <;> omega
      · have same : disabledRow userId user = user := if_neg named
        rw [List.map_cons, same, List.countP_cons, List.countP_cons]
        have := ih keyed
        omega

/-- A request that is about to disable an admin has counted as many as there still are. -/
def Timely (users : Users) (request : DisableUser) : Prop :=
  match request.stage with
  | .updating admins true => admins ≤ users.activeAdmins
  | _ => True

instance (users : Users) (request : DisableUser) : Decidable (Timely users request) := by
  unfold Timely
  split <;> infer_instance

/-- What a request that is about to write has made sure of. -/
def Checked (users : Users) (request : DisableUser) : Prop :=
  match request.stage with
  | .updating admins true => 1 < admins
  | .updating _ false => users.adminListed request.userId = false
  | _ => True

/-- One statement of a request that is timely: an admin is left, and the request goes on
with what it has made sure of. -/
theorem disable_user_keeps (some_admin : 0 < users.activeAdmins)
    (checked : Checked users request) (timely : Timely users request) :
    0 < (disableUser users request).1.activeAdmins ∧
      Checked (disableUser users request).1 (disableUser users request).2 := by
  obtain ⟨session, userId, stage⟩ := request
  cases stage with
  | authenticating =>
      unfold disableUser
      dsimp only
      split
      · exact ⟨some_admin, trivial⟩
      · split <;> exact ⟨some_admin, trivial⟩
  | counting | answered _ => exact ⟨some_admin, trivial⟩
  | targeting admins =>
      unfold disableUser
      dsimp only
      split
      next => exact ⟨some_admin, trivial⟩
      next more =>
          refine ⟨some_admin, ?_⟩
          cases listed : users.adminListed userId with
          | true =>
              have more : ¬ admins ≤ 1 := fun few => more ⟨listed, few⟩
              exact Nat.lt_of_not_le more
          | false => exact listed
  | updating admins targetIsAdmin =>
      refine ⟨?_, trivial⟩
      cases targetIsAdmin with
      | true =>
          have lost : users.activeAdmins ≤ (users.disable userId).activeAdmins + 1 :=
            active_admins_disable users userId
          have counted : 1 < admins := checked
          have current : admins ≤ users.activeAdmins := timely
          show 0 < (users.disable userId).activeAdmins
          omega
      | false =>
          have same : (users.disable userId).activeAdmins = users.activeAdmins :=
            active_admins_disable_other checked
          show 0 < (users.disable userId).activeAdmins
          omega

/-- What a request has made sure of, the statements of the others leave true. -/
theorem checked_disable_user {other : DisableUser} (checked : Checked users other) :
    Checked (disableUser users request).1 other := by
  have kept : (disableUser users request).1 = users ∨
      (disableUser users request).1 = users.disable request.userId := by
    unfold disableUser
    cases request.stage with
    | authenticating =>
        dsimp only
        split
        · exact .inl rfl
        · split <;> exact .inl rfl
    | counting | answered _ => exact .inl rfl
    | targeting admins =>
        dsimp only
        split <;> exact .inl rfl
    | updating admins targetIsAdmin => exact .inr rfl
  rcases kept with same | written
  · rwa [same]
  · rw [written]
    obtain ⟨session, userId, stage⟩ := other
    cases stage with
    | updating admins targetIsAdmin =>
        cases targetIsAdmin with
        | true => exact checked
        | false => exact admin_listed_disable checked
    | _ => trivial

/-- An admin is left at every point of every run whose requests are timely. -/
theorem some_admin_of_timely {users : Users} {requests : List DisableUser}
    {schedule : List Nat} (some_admin : 0 < users.activeAdmins)
    (begin_ : ∀ request ∈ requests, request.stage = .authenticating)
    (timely : Scene.Meets disableUser Timely schedule ⟨users, requests⟩) :
    0 < (Scene.play disableUser schedule ⟨users, requests⟩).shared.activeAdmins := by
  refine (Scene.play_each (G := fun users => 0 < users.activeAdmins) (L := Checked)
    (fun _ _ some_admin checked timely => disable_user_keeps some_admin checked timely)
    (fun _ _ _ _ checked => checked_disable_user checked) timely some_admin ?_).1
  intro request mem
  rw [Checked, begin_ request mem]
  trivial

def pair : Users where
  rows := [
    { id := ⟨1⟩, email := "ada@example.com", role := .admin },
    { id := ⟨2⟩, email := "bo@example.com", role := .admin }]
  keyed := by decide

/-- Each of the two disables the other. -/
def crossed : List DisableUser := [
  { session := some ⟨⟨1⟩, 1⟩, userId := ⟨2⟩ },
  { session := some ⟨⟨2⟩, 1⟩, userId := ⟨1⟩ }]

theorem crossed_begin : ∀ request ∈ crossed, request.stage = .authenticating := by
  intro request mem
  rcases List.mem_cons.mp mem with rfl | mem
  · rfl
  · rw [List.mem_singleton.mp mem]

/-- One request after the other, the second is turned away. -/
theorem some_admin_of_timely_serial :
    0 < (Scene.play disableUser [0, 0, 0, 0, 1, 1] ⟨pair, crossed⟩).shared.activeAdmins :=
  some_admin_of_timely (by decide) crossed_begin (by decide)

/-- Both count two admins before either of them writes. -/
theorem last_admins_disabled : ¬ ∀ (users : Users) (requests : List DisableUser)
    (schedule : List Nat), 0 < users.activeAdmins →
    (∀ request ∈ requests, request.stage = .authenticating) →
    0 < (Scene.play disableUser schedule ⟨users, requests⟩).shared.activeAdmins := by
  intro kept
  have left := kept pair crossed [0, 1, 0, 1, 0, 1, 0, 1] (by decide) crossed_begin
  exact absurd left (by decide)

end Users
end KuWarden.Api
