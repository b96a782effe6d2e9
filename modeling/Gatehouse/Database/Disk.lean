import Gatehouse.Database.Basic
import Gatehouse.Database.Target

/-! A disk with databases in its files. Paths are told apart by their names alone, so two spellings
of one path are one file. -/
namespace Gatehouse.Database

abbrev Path := List String

namespace Path

def size (path : Path) : Nat := path.foldl (fun size name => size + name.utf8ByteSize + 1) 0

/-- The greatest number of bytes of a path that is followed. -/
def longest : Nat := 511

def longestName : Nat := 255

/-- What is added to the name of a file to name the journal of its changes. -/
def journal : String := "-journal"

def hasJournal (path : Path) : Bool :=
  path.all fun name => (name ++ journal).utf8ByteSize ≤ longestName

end Path

structure Disk where
  /-- The directory from which relative paths start. -/
  home : Path
  directories : List Path
  files : List (Path × Database)

namespace Disk

/-- Goes one name further along a path. What does not exist does not stand in the way; a file and a
name that is too long for its directory do. -/
def follow? (d : Disk) (path : Path) (name : String) : Option Path :=
  if name.isEmpty ∨ name = "." then some path
  else if name = ".." then some path.dropLast
  else do
    let longer := path ++ [name]
    guard (longer.size ≤ Path.longest)
    guard (!d.directories.contains path || name.utf8ByteSize ≤ Path.longestName)
    guard (!d.files.any fun (file, _) => file.isPrefixOf path)
    return longer

def resolve? (d : Disk) (text : String) : Option Path :=
  ((text.toList.splitOn '/').map String.ofList).foldlM d.follow?
    (if text.startsWith "/" then [] else d.home)

def barrier (t : Target) (path : Path) : Option Fault :=
  if t.readOnly || t.immutable then some .readOnly
  else if path.hasJournal then none
  else some .cannotOpen

/-- Opens a database, and answers the file that it belongs to as well. A directory can be opened for
reading, but not be read. -/
def openTarget (d : Disk) (t : Target) : Except Fault (Option Path × Database) :=
  match t.path with
  | none =>
    .ok (none, { Database.empty with
      barrier := if t.readOnly || t.immutable then some .readOnly else none })
  | some text =>
    match d.resolve? text with
    | none | some [] => .error .cannotOpen
    | some path =>
      if path.size + Path.journal.utf8ByteSize > Path.longest + 1 then .error .cannotOpen
      else if d.directories.contains path then
        .error (if t.readOnly then .cannotRead else .cannotOpen)
      else match d.files.lookup path with
        | some db => .ok (some path, { db with barrier := barrier t path })
        | none =>
          if t.create ∧ ¬t.readOnly ∧ d.directories.contains path.dropLast then
            .ok (some path, { Database.empty with barrier := barrier t path })
          else .error .cannotOpen

def connect (d : Disk) (l : Location) : Except Fault (Option Path × Database) := do
  d.openTarget (← l.target)

def save (d : Disk) (path : Option Path) (db : Database) : Disk :=
  match path with
  | none => d
  | some path =>
    { d with
      files := (path, { db with closed := false, barrier := none }) ::
        d.files.filter (·.1 ≠ path) }

end Disk

end Gatehouse.Database
