import Gatehouse.Database.Basic
import Gatehouse.Directory.Basic
import Gatehouse.Text.Blank

/-! Users, roles and permissions in the database. Usernames and codes are unique, and a role is only
assigned or extended where both sides exist; removing a user removes the user's assignments. -/
namespace Gatehouse.Database

structure NewUser where
  username : String
  passwordHash : String
  fullname : String
  email : String

namespace Accounts

def failure (context : Option String) (fault : Fault) : Error :=
  .databaseFailure fault.text context

def plainly {α : Type} (c : Change Fault α) : Change Error α := c.mapError (failure none)

def inContext {α : Type} (context : String) (c : Change Fault α) : Change Error α :=
  c.mapError (failure (some context))

/-- The number of a user's row; ids above the greatest number have none. -/
def rowOf? (id : UserId) : Option Nat :=
  if id.value.toNat < Numbered.limit then some id.value.toNat else none

/-! ## Users -/

def insertUser (u : NewUser) (second : Int) : Change Fault User :=
  update (·.resolveInsert "users" "username") fun r => do
    if (r.users.find? (·.username = u.username)).isSome then throw (.notUnique "users.username")
    let (user, users) ← r.users.add fun n => {
      id := ⟨.ofNat n⟩
      username := u.username
      fullname := u.fullname
      email := u.email
      passwordHash := u.passwordHash
      createdAt := ⟨second, 0⟩
      updatedAt := ⟨second, 0⟩ }
    return (user, { r with users })

def createUser (u : NewUser) (second : Int) : Change Error User :=
  (insertUser u second).mapError fun fault =>
    if fault = .notUnique "users.username" then
      .storage (.constraint s!"Username {u.username} is taken")
    else failure none fault

/-- Puts another password hash and answers whether there is such a user. -/
def putHash (n : Nat) (hash : String) (second : Int) : Change Fault Bool :=
  update (·.resolve ["users"] [("users", "password_hash")]) fun r =>
    match r.users.rows[n]? with
    | none => .ok (false, r)
    | some user => .ok (true, { r with
        users.rows := r.users.rows.insert n
          { user with passwordHash := hash, updatedAt := ⟨second, 0⟩ } })

def updateHash (id : UserId) (hash : String) (second : Int) : Change Error Unit := do
  match rowOf? id with
  | none => throw (.storage .notFound)
  | some n => if !(← plainly (putHash n hash second)) then throw (.storage .notFound)

def deleteUser (id : UserId) : Change Error Unit :=
  match rowOf? id with
  | none => return
  | some n => plainly (update (·.resolveDelete "users") fun r => .ok ((), { r with
      users := r.users.remove n
      userRoles := r.userRoles.filter (·.1 ≠ n) }))

/-! ## Roles and permissions -/

def requireCode (name code : String) : Except Error Unit :=
  if (Text.trim code).isEmpty then
    .error (.validation (.missingField s!"{name} code is required"))
  else .ok ()

def createRole (code : String) (fullAccess : Bool) : Change Error Role := do
  requireCode "Role" code
  inContext "Failed to create role" <| update (·.resolveInsert "roles" "code") fun r => do
    if (r.roles.find? (·.code = code)).isSome then throw (.notUnique "roles.code")
    let (role, roles) ← r.roles.add fun n => ⟨⟨.ofNat n⟩, code, fullAccess⟩
    return (role, { r with roles })

/-- The number of a permission, which is added if there is none of that code. A known code takes no
number here; SQLite uses one up, which no answer shows before all numbers are gone. -/
def ensurePermission (code : String) : Change Fault Nat :=
  update (·.resolveInsert "permissions" "code") fun r => do
    match r.permissions.find? (· = code) with
    | some (n, _) => return (n, r)
    | none =>
      let (_, permissions) ← r.permissions.add fun _ => code
      return (permissions.last, { r with permissions })

def resolveGrant (s : Schema) : Except Fault Unit := do
  s.resolveInsert "role_permissions" "role_id"
  s.resolveParents "role_permissions"

def grant (role : RoleId) (code : String) : Change Error Unit := do
  requireCode "Permission" code
  if (← get).closed then throw (failure none .closed)
  let permission ← inContext "Failed to create permission" (ensurePermission code)
  inContext "Failed to grant permission" <| update resolveGrant fun r =>
    let pair := (role.value.toNat, permission)
    if r.rolePermissions.contains pair then .ok ((), r)
    else if r.roles.rows.contains pair.1 then
      .ok ((), { r with rolePermissions := r.rolePermissions ++ [pair] })
    else .error .foreignKey

def resolveAssign (s : Schema) : Except Fault Unit := do
  s.resolveInsert "user_roles" "user_id"
  s.resolveParents "user_roles"

def assign (id : UserId) (role : RoleId) : Change Error Unit :=
  match rowOf? id with
  | none => throw (.storage .notFound)
  | some n =>
    inContext "Failed to assign role" <| update resolveAssign fun r =>
      let pair := (n, role.value.toNat)
      if r.userRoles.contains pair then .ok ((), r)
      else if r.users.rows.contains pair.1 ∧ r.roles.rows.contains pair.2 then
        .ok ((), { r with userRoles := r.userRoles ++ [pair] })
      else .error .foreignKey

/-! ## Look-ups -/

def findByUsername (username : String) : Change Error (Option User) :=
  plainly (query (·.resolve ["users"] [("users", "username")]) fun r =>
    (r.users.find? (·.username = username)).map Prod.snd)

def findById (id : UserId) : Change Error (Option User) :=
  match rowOf? id with
  | none => return none
  | some n => plainly (query (·.resolve ["users"] []) fun r => r.users.rows[n]?)

def rolesOf (r : Rows) (n : Nat) : List (Nat × Role) :=
  r.roles.rows.toList.filter fun (role, _) => r.userRoles.contains (n, role)

def grantsOf (r : Rows) (n : Nat) : List (Nat × String) :=
  r.rolePermissions.filterMap fun (role, permission) =>
    if r.userRoles.contains (n, role) then
      r.permissions.rows[permission]?.map fun code => (role, code)
    else none

def resolveRoles : Schema → Except Fault Unit :=
  (·.resolve ["roles", "user_roles"] [("roles", "r.code"), ("user_roles", "ur.user_id")])

def resolveGrants : Schema → Except Fault Unit :=
  (·.resolve ["role_permissions", "permissions", "user_roles"]
    [("role_permissions", "rp.role_id"), ("permissions", "p.code")])

def findAccess (id : UserId) : Change Error (Option UserAccess) := do
  match rowOf? id with
  | none => return none
  | some n =>
    if ← plainly (query (·.resolve ["users"] []) fun r => r.users.rows.contains n) then
      let roles ← inContext "Failed to load roles" (query resolveRoles (rolesOf · n))
      let grants ← inContext "Failed to load permissions" (query resolveGrants (grantsOf · n))
      let access := roles.foldl (fun access (_, role) => access.withRole role) (.empty id)
      return some (grants.foldl
        (fun access (role, code) => access.withPermission ⟨.ofNat role⟩ code) access)
    else return none

end Accounts

def directory (db : Database) : Directory where
  byUsername username := ((Accounts.findByUsername username).run db).1
  byId id := ((Accounts.findById id).run db).1
  access id := ((Accounts.findAccess id).run db).1

def health : Change Error Unit :=
  Accounts.plainly (query (fun _ => .ok ()) fun _ => ())

end Gatehouse.Database
