import Gatehouse.User.Basic
import Std.Data.ExtTreeMap
import Std.Data.ExtTreeSet

/-! What a user may do: the user's roles, and for each role the codes of its permissions. A code is
granted by a role with full access, or by a role that has exactly this code. -/
namespace Gatehouse

structure RoleId where
  value : UInt64
deriving DecidableEq

namespace RoleId

instance : Ord RoleId := ⟨compareOn RoleId.value⟩

instance : Std.TransOrd RoleId := inferInstanceAs (Std.TransCmp (compareOn RoleId.value))

instance : Std.LawfulEqOrd RoleId where
  eq_of_compare := fun {a b} h => by
    have : a.value = b.value := Std.LawfulEqOrd.eq_of_compare h
    cases a
    cases b
    cases this
    rfl

def text (id : RoleId) : String := toString id.value.toNat

/-- A role id as the key of a JSON member: its decimal without leading zeros and escapes. -/
def ofKey? : Spelling → Option RoleId
  | .plain key => do
    let n ← Text.digits? key.toList
    guard (n < UInt64.size ∧ key = toString n)
    return ⟨.ofNat n⟩
  | _ => none

end RoleId

structure Role where
  id : RoleId
  code : String
  fullAccess : Bool
deriving DecidableEq

namespace Role

def toJson (r : Role) : Json :=
  .record [("id", .uint64 r.id.value), ("code", .str r.code), ("full_access", .bool r.fullAccess)]

def ofJson? (j : Json) : Option Role := do
  match ← j.allFields? ["id", "code", "full_access"] with
  | [id, code, fullAccess] => return ⟨⟨← id.uint64?⟩, ← code.string?, ← fullAccess.bool?⟩
  | _ => none

end Role

abbrev PermissionSet := Std.ExtTreeSet String

structure UserAccess where
  userId : UserId
  roles : List Role
  permissions : Std.ExtTreeMap RoleId PermissionSet

namespace UserAccess

def empty (userId : UserId) : UserAccess := ⟨userId, [], ∅⟩

def withRole (a : UserAccess) (role : Role) : UserAccess :=
  { a with
    roles := a.roles ++ [role]
    permissions := a.permissions.alter role.id fun codes => some (codes.getD ∅) }

def withPermission (a : UserAccess) (role : RoleId) (code : String) : UserAccess :=
  { a with permissions := a.permissions.alter role fun codes => some ((codes.getD ∅).insert code) }

def hasFullAccess (a : UserAccess) : Bool := a.roles.any Role.fullAccess

def grants (a : UserAccess) (code : String) : Bool :=
  a.hasFullAccess || a.roles.any fun role => ((a.permissions[role.id]?).getD ∅).contains code

def toJson (a : UserAccess) : Json :=
  .record [("user_id", .uint64 a.userId.value), ("roles", .array (a.roles.map Role.toJson)),
    ("permissions", .record (a.permissions.toList.map fun (role, codes) =>
      (role.text, .array (codes.toList.map .str))))]

def codes? (j : Json) : Option PermissionSet := do
  return Std.ExtTreeSet.ofList (← (← j.items?).mapM Json.string?) compare

/-- Permissions by role; the last of several members with one key counts. -/
def permissions? : Json → Option (Std.ExtTreeMap RoleId PermissionSet)
  | .object members => do
    let entries ← members.mapM fun (key, value) => do
      return (← RoleId.ofKey? key, ← codes? value)
    return Std.ExtTreeMap.ofList entries compare
  | _ => none

def ofJson? (j : Json) : Option UserAccess := do
  match ← j.allFields? ["user_id", "roles", "permissions"] with
  | [userId, roles, permissions] =>
    return ⟨⟨← userId.uint64?⟩, ← (← roles.items?).mapM Role.ofJson?, ← permissions? permissions⟩
  | _ => none

end UserAccess

end Gatehouse
