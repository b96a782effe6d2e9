import Gatehouse.Command.Run
import Gatehouse.Database.Snapshot
import Gatehouse.Json.Reader
import Std.Time.DateTime.Timestamp

/-! The program: it takes the arguments, the settings of the environment, the time, a salt and the
file of the database, if there is one, and leaves the rest to the command line. -/
namespace Gatehouse.Main

open Command Database

def spell (path : Path) : String := "/" ++ "/".intercalate path

/-- The database that a file's bytes hold; a file without any holds an empty one. -/
def read? (bytes : Bytes) : Option Database :=
  if bytes = [] then some .empty else (Json.ofBytes? bytes).bind Database.ofJson?

/-- The part of the disk that matters to one file. A file that holds no database can no more be
opened than a directory. -/
def load (name : String) : IO Disk := do
  let here ← IO.currentDir
  let some home := Disk.resolve? ⟨[], [], []⟩ here.toString | return ⟨[], [], []⟩
  let some path := Disk.resolve? ⟨home, [], []⟩ name | return ⟨home, [], []⟩
  let parents := if ← (here / spell path.dropLast).isDir then [path.dropLast] else []
  let file := here / spell path
  if ← file.isDir then return ⟨home, path :: parents, []⟩
  if ← file.pathExists then
    match read? (← IO.FS.readBinFile file).toList with
    | some db => return ⟨home, parents, [(path, db)]⟩
    | none => return ⟨home, path :: parents, []⟩
  return ⟨home, parents, []⟩

def save (disk : Disk) : IO Unit := do
  for (path, db) in disk.files do
    IO.FS.writeFile (spell path) (db.toJson.compact ++ "\n")

def run (args : List String) : IO UInt32 := do
  let settings ← [databaseSetting, passwordSetting].filterMapM fun name =>
    return (← IO.getEnv name).map fun value => (name, value)
  let environment (name : String) : Option String := settings.lookup name
  let disk ← match (parse environment args).toOption.bind Invocation.file? with
    | some name => load name
    | none => pure ⟨[], [], []⟩
  let now ← Std.Time.Timestamp.now
  let salt := (← IO.getRandomBytes (.ofNat Password.saltLength)).toList
  let (outcome, disk) := Command.run environment args disk now.toSecondsSinceUnixEpoch.val salt
  save disk
  let line := outcome.output.render
  unless line.isEmpty do IO.println line
  if let some reason := outcome.failure then IO.eprintln ("Command failed error=" ++ reason)
  return .ofNat outcome.code

end Gatehouse.Main

def main (args : List String) : IO UInt32 := Gatehouse.Main.run args
