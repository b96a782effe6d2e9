import Gatehouse.Database.Mention

/-! The names of a database: its tables and indexes. Names are told apart without regard to the case
of ASCII letters, and a statement is refused before it touches a row if one of its names is not
there. -/
namespace Gatehouse.Database

inductive Shape where
  /-- A table of the directory or of the migrations, with all its columns and keys. -/
  | full
  /-- A table with the lone column `id`, which is no key. -/
  | bare
  /-- The table of the numbers given out so far, which stays once there is one. -/
  | internal
  /-- An index of a table, which goes by its folded name. -/
  | index (table : String)
deriving DecidableEq

structure Object where
  name : String
  shape : Shape
deriving DecidableEq

def Object.isTable (o : Object) : Bool :=
  match o.shape with
  | .index _ => false
  | _ => true

/-- The tables and indexes in the order in which they were made. -/
structure Schema where
  objects : List Object
deriving DecidableEq

namespace Schema

def empty : Schema := ⟨[]⟩

/-- The form in which names are compared. -/
def fold (name : String) : String := name.toLower

def find? (s : Schema) (name : String) : Option Object :=
  s.objects.find? fun o => fold o.name = fold name

def table? (s : Schema) (name : String) : Option Object := (s.find? name).filter Object.isTable

def isFull (s : Schema) (name : String) : Bool := (s.find? name).any (·.shape = .full)

def isInternal (name : String) : Bool := "sqlite_".toList.isPrefixOf (fold name).toList

def names (s : Schema) : List String :=
  ((s.objects.map Object.name).filter (!isInternal ·)).mergeSort

def numbered : List String := ["users", "roles", "permissions"]

def sequence : String := "sqlite_sequence"

def insert (s : Schema) (name : String) (shape : Shape) : Schema :=
  let numbers : List Object :=
    if shape = .full ∧ numbered.contains name ∧ (s.find? sequence).isNone then
      [⟨sequence, .internal⟩]
    else []
  ⟨s.objects ++ ⟨name, shape⟩ :: numbers⟩

/-! ## Making and dropping -/

def createTable (s : Schema) (m : Mention) (shape : Shape) : Except Fault Schema :=
  if !m.isHere then .error (.unknownPlace ((m.place.map Prod.fst).getD ""))
  else if isInternal m.name then .error (.internalName m.name)
  else match s.find? m.name with
  | none => .ok (s.insert m.name shape)
  | some object =>
    if !object.isTable then .error (.indexInTheWay m.name)
    else if m.conditional then .ok s
    else .error (.tableExists m.written)

/-- The list of all objects, which is a table that every database has, under each of its names. -/
def catalog : List (String × String) := [
  ("sqlite_master", "sqlite_master"), ("sqlite_schema", "sqlite_master"),
  ("sqlite_temp_master", "sqlite_temp_master"), ("sqlite_temp_schema", "sqlite_temp_master")]

/-- The name of the table that is to be dropped, if there is anything to be done. -/
def findToDrop (s : Schema) (m : Mention) : Except Fault (Option String) :=
  let own := (catalog.lookup (fold m.name)).map fun name => (⟨name, .internal⟩ : Object)
  match if m.isHere then own <|> s.table? m.name else none with
  | some object =>
    if object.shape = .internal then .error (.cannotDrop object.name) else .ok (some object.name)
  | none => if m.conditional then .ok none else .error (.noSuchTable m.fullName)

def dropTable (s : Schema) (name : String) : Schema :=
  ⟨s.objects.filter fun o =>
    !(o.isTable && fold o.name = fold name) && o.shape ≠ .index (fold name)⟩

def ensureIndex (s : Schema) (name table column : String) : Except Fault Schema :=
  match s.table? table with
  | none => .error (.noSuchTable ("main." ++ table))
  | some object =>
    match s.find? name with
    | some other => if other.isTable then .error (.tableInTheWay name) else .ok s
    | none =>
      if object.shape = .full then .ok (s.insert name (.index (fold table)))
      else .error (.noSuchColumn column)

def dropIndex (s : Schema) (name : String) : Schema :=
  ⟨s.objects.filter fun o => o.isTable || fold o.name ≠ fold name⟩

/-! ## Resolving the names of a statement -/

def requireTable (s : Schema) (name : String) : Except Fault Unit :=
  if (s.table? name).isSome then .ok () else .error (.noSuchTable name)

/-- A column other than `id`, as the statement writes it. -/
def requireColumn (s : Schema) (table column : String) : Except Fault Unit :=
  if s.isFull table then .ok () else .error (.noSuchColumn column)

/-- All tables of a query first, and then its columns. -/
def resolve (s : Schema) (tables : List String) (columns : List (String × String)) :
    Except Fault Unit := do
  tables.forM s.requireTable
  columns.forM fun (table, column) => s.requireColumn table column

def resolveInsert (s : Schema) (table column : String) : Except Fault Unit := do
  s.requireTable table
  if s.isFull table then .ok () else .error (.noColumnInTable table column)

/-! ## Resolving the references between tables -/

/-- The tables to whose rows a table refers, the last declared first. -/
def parents (child : String) : List String :=
  match child with
  | "user_roles" => ["roles", "users"]
  | "role_permissions" => ["permissions", "roles"]
  | _ => []

def resolveParent (s : Schema) (child parent : String) : Except Fault Unit :=
  match s.table? parent with
  | none => .error (.noSuchTable ("main." ++ parent))
  | some object => if object.shape = .full then .ok () else .error (.keyMismatch child parent)

def resolveParents (s : Schema) (child : String) : Except Fault Unit :=
  (parents child).forM (s.resolveParent child)

/-- The tables that refer to the rows of a table, the last made first. -/
def children (s : Schema) (parent : String) : List String :=
  (s.objects.reverse.filter fun o => o.shape = .full && (parents o.name).contains (fold parent)).map
    Object.name

/-- Rows that refer to lost ones are lost too, which takes all references of their tables. -/
def resolveLoss (s : Schema) (table : String) : Except Fault Unit :=
  (s.children table).forM s.resolveParents

/-- A table without a key is dropped without regard to the references to it. -/
def resolveDrop (s : Schema) (table : String) : Except Fault Unit :=
  if s.isFull table then s.resolveLoss table else .ok ()

def resolveDelete (s : Schema) (table : String) : Except Fault Unit := do
  s.requireTable table
  (s.children table).forM fun child => s.resolveParent child table
  s.resolveLoss table

end Schema

end Gatehouse.Database
