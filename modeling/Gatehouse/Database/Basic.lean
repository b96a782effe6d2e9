import Gatehouse.Database.Schema
import Gatehouse.User.Access
import Std.Data.ExtTreeMap

/-! The database of users, roles and permissions. A change either succeeds or leaves everything as
it was; rows that are numbered get a number above all that were given out before. -/
namespace Gatehouse

namespace Database

/-- Rows with numbers that are never used twice. -/
structure Numbered (Row : Type) where
  rows : Std.ExtTreeMap Nat Row
  /-- The greatest number given out so far. -/
  last : Nat

namespace Numbered

variable {Row : Type}

def empty : Numbered Row := ⟨∅, 0⟩

/-- The first number that no row can have. -/
def limit : Nat := 0x8000000000000000

def add (t : Numbered Row) (row : Nat → Row) : Except Fault (Row × Numbered Row) :=
  let n := t.last + 1
  if n < limit then .ok (row n, ⟨t.rows.insert n (row n), n⟩) else .error .full

def remove (t : Numbered Row) (n : Nat) : Numbered Row := { t with rows := t.rows.erase n }

def find? (t : Numbered Row) (p : Row → Bool) : Option (Nat × Row) :=
  t.rows.toList.find? fun entry => p entry.2

end Numbered

structure Applied where
  name : String
  /-- Seconds since 1970. -/
  second : Int
deriving DecidableEq

/-- The rows of all tables; tables that do not exist have none. -/
structure Rows where
  users : Numbered User
  roles : Numbered Role
  /-- The codes of permissions. -/
  permissions : Numbered String
  /-- A user's number and a role's. -/
  userRoles : List (Nat × Nat)
  /-- A role's number and a permission's. -/
  rolePermissions : List (Nat × Nat)
  /-- Applied migrations by version. -/
  applied : Std.ExtTreeMap Int Applied

namespace Rows

def empty : Rows := ⟨.empty, .empty, .empty, [], [], ∅⟩

/-- The rows once a table has lost its own; rows that refer to a lost one go with it. -/
def clear (r : Rows) (table : String) : Rows :=
  match table with
  | "users" => { r with users := .empty, userRoles := [] }
  | "roles" => { r with roles := .empty, userRoles := [], rolePermissions := [] }
  | "permissions" => { r with permissions := .empty, rolePermissions := [] }
  | "user_roles" => { r with userRoles := [] }
  | "role_permissions" => { r with rolePermissions := [] }
  | "_portcullis_migrations" => { r with applied := ∅ }
  | _ => r

end Rows

end Database

structure Database where
  schema : Database.Schema
  rows : Database.Rows
  closed : Bool
  /-- Why nothing can be changed, if so. -/
  barrier : Option Database.Fault

namespace Database

def empty : Database := ⟨.empty, .empty, false, none⟩

/-- A change of the database with an answer; one that fails changes nothing. -/
abbrev Change (ε α : Type) := StateT Database (Except ε) α

namespace Change

variable {ε δ α : Type}

def run (c : Change ε α) (db : Database) : Except ε α × Database :=
  match StateT.run c db with
  | .ok (answer, db) => (.ok answer, db)
  | .error e => (.error e, db)

def mapError (f : ε → δ) (c : Change ε α) : Change δ α :=
  fun db => (StateT.run c db).mapError f

end Change

def statement {α : Type} (resolve : Schema → Except Fault Unit)
    (body : Database → Except Fault (α × Database)) : Change Fault α := fun db => do
  if db.closed then throw .closed
  resolve db.schema
  body db

def query {α : Type} (resolve : Schema → Except Fault Unit) (answer : Rows → α) :
    Change Fault α :=
  statement resolve fun db => .ok (answer db.rows, db)

def unlessBarred {α : Type} (db : Database) (result : Except Fault α) : Except Fault α :=
  match db.barrier with
  | some fault => .error fault
  | none => result

def update {α : Type} (resolve : Schema → Except Fault Unit)
    (body : Rows → Except Fault (α × Rows)) : Change Fault α :=
  statement resolve fun db =>
    unlessBarred db <| (body db.rows).map fun (answer, rows) => (answer, { db with rows })

/-- A statement that changes the schema; one that leaves it as it is may be made anywhere. -/
def define (body : Schema → Except Fault Schema) : Change Fault Unit :=
  statement (fun _ => .ok ()) fun db => do
    let schema ← body db.schema
    if schema = db.schema then return ((), db)
    unlessBarred db <| .ok ((), { db with schema })

def createTable (text : String) (shape : Shape) : Change Fault Unit :=
  define fun s => do s.createTable (← Mention.toMake text) shape

def ensureTable (name : String) : Change Fault Unit := define (·.createTable (.ifAny name) .full)

def ensureIndex (name table column : String) : Change Fault Unit :=
  define (·.ensureIndex name table column)

def dropIndex (name : String) : Change Fault Unit := define fun s => .ok (s.dropIndex name)

def drop (mention : Except Fault Mention) : Change Fault Unit :=
  statement (fun _ => .ok ()) fun db => do
    match ← db.schema.findToDrop (← mention) with
    | none => return ((), db)
    | some name =>
      db.schema.resolveDrop name
      unlessBarred db <| .ok ((), { db with
        schema := db.schema.dropTable name
        rows := db.rows.clear (Schema.fold name) })

def dropTable (text : String) : Change Fault Unit := drop (Mention.toDrop text)

def dropTableIfAny (name : String) : Change Fault Unit := drop (.ok (.ifAny name))

end Database

end Gatehouse
