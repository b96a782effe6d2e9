import Gatehouse.Database.Basic

/-! Migrations. Each is applied or reverted as a whole together with its record, going up in the
order of versions and down in the opposite order; one that fails ends the run and keeps what came
before it. -/
namespace Gatehouse.Database

inductive MigrationError where
  | failed (reason : String)
  | database (fault : Fault)
deriving DecidableEq

namespace MigrationError

def message : MigrationError → String
  | failed reason => "Migration failed: " ++ reason
  | database fault => "Database error: " ++ fault.text

def toError (e : MigrationError) : Error := .storage (.migration e.message)

end MigrationError

structure Migration where
  version : Int
  name : String
  up : Change MigrationError Unit
  down : Change MigrationError Unit

namespace Migration

def fault? (seen : List Int) (version : Int) (name : String) : Option String :=
  if version ≤ 0 then some s!"Migration {name} has non-positive version {version}"
  else if seen.contains version then some s!"Duplicate migration version {version}"
  else match seen with
    | previous :: _ =>
      if version < previous then
        some s!"Migration {name} (version {version}) is listed after version {previous}"
      else none
    | [] => none

def checkAfter (seen : List Int) : List (Int × String) → Except MigrationError Unit
  | [] => .ok ()
  | (version, name) :: rest =>
    match fault? seen version name with
    | some reason => .error (.failed reason)
    | none => checkAfter (version :: seen) rest

/-- Versions are positive and each is above the one before it. -/
def checkVersions (versions : List (Int × String)) : Except MigrationError Unit :=
  checkAfter [] versions

def tableName : String := "_portcullis_migrations"

def prepare : Change MigrationError Unit :=
  (ensureTable tableName).mapError .database

def resolveTable (s : Schema) : Except Fault Unit :=
  s.resolve [tableName] [(tableName, "version")]

def isApplied (version : Int) : Change MigrationError Bool :=
  (query resolveTable fun r => r.applied.contains version).mapError .database

def applied : Change MigrationError (List (Int × Applied)) :=
  (query resolveTable fun r => r.applied.toList).mapError .database

def record (m : Migration) (second : Int) : Change MigrationError Unit :=
  (update resolveTable fun r =>
    .ok ((), { r with applied := r.applied.insert m.version ⟨m.name, second⟩ })).mapError .database

def unrecord (m : Migration) : Change MigrationError Unit :=
  (update resolveTable fun r =>
    .ok ((), { r with applied := r.applied.erase m.version })).mapError .database

def applyOnce (second : Int) (m : Migration) : Change MigrationError Unit := do
  if !(← isApplied m.version) then
    m.up
    m.record second

def revertOnce (m : Migration) : Change MigrationError Unit := do
  if ← isApplied m.version then
    m.down
    m.unrecord

/-- Makes changes one after another until one fails. -/
def runAll (changes : List (Change MigrationError Unit)) (db : Database) :
    Except MigrationError Unit × Database :=
  match changes with
  | [] => (.ok (), db)
  | change :: rest =>
    match change.run db with
    | (.ok (), db) => runAll rest db
    | (.error e, db) => (.error e, db)

def versions (ms : List Migration) : List (Int × String) := ms.map fun m => (m.version, m.name)

def upAll (second : Int) (ms : List Migration) (db : Database) :
    Except MigrationError Unit × Database :=
  match checkVersions (versions ms) with
  | .ok () => runAll (ms.map (applyOnce second)) db
  | .error e => (.error e, db)

def downAll (ms : List Migration) (db : Database) : Except MigrationError Unit × Database :=
  match checkVersions (versions ms) with
  | .ok () => runAll (ms.reverse.map revertOnce) db
  | .error e => (.error e, db)

end Migration

end Gatehouse.Database
