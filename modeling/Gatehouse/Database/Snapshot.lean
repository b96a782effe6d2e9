import Gatehouse.Database.Basic

/-! A database as one JSON value, in which it is kept between two runs: the tables and indexes with
their names, the rows of every table, and the greatest number each table has given out. -/
namespace Gatehouse.Database

namespace Object

def toJson (o : Object) : Json :=
  .record [("name", .str o.name), match o.shape with
    | .full => ("shape", .str "full")
    | .bare => ("shape", .str "bare")
    | .internal => ("shape", .str "internal")
    | .index table => ("index_of", .str table)]

def ofJson? (j : Json) : Option Object := do
  match ← j.fields? ["name", "shape", "index_of"] with
  | [name, none, some table] => return ⟨← (← name).string?, .index (← table.string?)⟩
  | [name, some shape, none] =>
    match ← shape.string? with
    | "full" => return ⟨← (← name).string?, .full⟩
    | "bare" => return ⟨← (← name).string?, .bare⟩
    | "internal" => return ⟨← (← name).string?, .internal⟩
    | _ => none
  | _ => none

end Object

namespace Schema

def toJson (s : Schema) : Json := .array (s.objects.map Object.toJson)

def ofJson? (j : Json) : Option Schema := do return ⟨← (← j.items?).mapM Object.ofJson?⟩

end Schema

namespace Numbered

variable {Row : Type}

def toJson (write : Row → Json) (t : Numbered Row) : Json :=
  .record [("last", .int t.last),
    ("rows", .array (t.rows.toList.map fun (n, row) => .array [.int n, write row]))]

def numberedRow? (read : Json → Option Row) : Json → Option (Nat × Row)
  | .array [n, row] => do return (← (← n.int?).toNat?, ← read row)
  | _ => none

def ofJson? (read : Json → Option Row) (j : Json) : Option (Numbered Row) := do
  match ← j.allFields? ["last", "rows"] with
  | [last, rows] =>
    return ⟨.ofList (← (← rows.items?).mapM (numberedRow? read)) compare, ← (← last.int?).toNat?⟩
  | _ => none

end Numbered

namespace Snapshot

def ofUser (u : User) : Json :=
  match u.toJson with
  | .object members => .object (members ++ [(.plain "password_hash", .str u.passwordHash)])
  | j => j

def ofPairs (pairs : List (Nat × Nat)) : Json :=
  .array (pairs.map fun (a, b) => .array [.int a, .int b])

def pairs? (j : Json) : Option (List (Nat × Nat)) := do
  (← j.items?).mapM (Numbered.numberedRow? fun j => do (← j.int?).toNat?)

def ofApplied (applied : Std.ExtTreeMap Int Applied) : Json :=
  .array (applied.toList.map fun (version, a) => .array [.int version, .str a.name, .int a.second])

def applied? (j : Json) : Option (Std.ExtTreeMap Int Applied) := do
  let entries ← (← j.items?).mapM fun
    | .array [version, name, second] => do
      return (← version.int?, (⟨← name.string?, ← second.int?⟩ : Applied))
    | _ => none
  return .ofList entries compare

end Snapshot

namespace Rows

def toJson (r : Rows) : Json :=
  .record [("users", r.users.toJson Snapshot.ofUser), ("roles", r.roles.toJson Role.toJson),
    ("permissions", r.permissions.toJson .str), ("user_roles", Snapshot.ofPairs r.userRoles),
    ("role_permissions", Snapshot.ofPairs r.rolePermissions),
    ("applied", Snapshot.ofApplied r.applied)]

def ofJson? (j : Json) : Option Rows := do
  match ← j.allFields?
      ["users", "roles", "permissions", "user_roles", "role_permissions", "applied"] with
  | [users, roles, permissions, userRoles, rolePermissions, applied] =>
    return {
      users := ← Numbered.ofJson? User.ofJson? users
      roles := ← Numbered.ofJson? Role.ofJson? roles
      permissions := ← Numbered.ofJson? Json.string? permissions
      userRoles := ← Snapshot.pairs? userRoles
      rolePermissions := ← Snapshot.pairs? rolePermissions
      applied := ← Snapshot.applied? applied }
  | _ => none

end Rows

def toJson (db : Database) : Json :=
  .record [("schema", db.schema.toJson), ("rows", db.rows.toJson)]

/-- The database of a snapshot, open for reading and writing. -/
def ofJson? (j : Json) : Option Database := do
  match ← j.allFields? ["schema", "rows"] with
  | [schema, rows] =>
    return { empty with schema := ← Schema.ofJson? schema, rows := ← Rows.ofJson? rows }
  | _ => none

end Gatehouse.Database
