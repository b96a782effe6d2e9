import Gatehouse.Database.Fault
import Gatehouse.Text.Percent

/-! Where a database is to be found, as a URL says it: a file or the memory, and how it is opened.
-/
namespace Gatehouse.Database

structure Location where
  name : String
  /-- Whether the database is in memory whatever its name. -/
  inMemory : Bool
  create : Bool
  readOnly : Bool
  /-- Whether the file is one that nobody may change. -/
  immutable : Bool
  /-- The name of the driver by which files are reached, if the URL gives one. -/
  driver : Option String
deriving DecidableEq

namespace Location

def ofName (name : String) : Location := ⟨name, false, false, false, false, none⟩

/-- A text without any repetition of an opening. -/
def withoutOpening (opening : List Char) (cs : List Char) : List Char :=
  if opening ≠ [] ∧ opening.isPrefixOf cs then withoutOpening opening (cs.drop opening.length)
  else cs
termination_by cs.length
decreasing_by
  have : opening.length ≤ cs.length := (List.isPrefixOf_iff_prefix.1 (by simp_all)).length_le
  have : 0 < opening.length := List.length_pos_iff.2 (by simp_all)
  simp only [List.length_drop]
  omega

def set (l : Location) (name value : String) : Except Fault Location :=
  match name, value with
  | "mode", "ro" => .ok { l with readOnly := true }
  | "mode", "rw" => .ok l
  | "mode", "rwc" => .ok { l with create := true }
  | "mode", "memory" => .ok { l with inMemory := true }
  | "cache", "private" | "cache", "shared" => .ok l
  | "immutable", "true" | "immutable", "1" => .ok { l with immutable := true }
  | "immutable", "false" | "immutable", "0" => .ok { l with immutable := false }
  | "vfs", driver => .ok { l with driver := some driver }
  | name, value =>
    if ["mode", "cache", "immutable"].contains name then .error (.unknownValue name value)
    else .error (.unknownParameter name)

def parse (url : String) : Except Fault Location := do
  let cs := withoutOpening "sqlite:".toList (withoutOpening "sqlite://".toList url.toList)
  let (name, query) := Text.splitFirst '?' cs
  let name ← (Text.unescapeText name).mapError .unreadableName
  (Text.queryPairs query).foldlM (fun l (name, value) => l.set name value) (ofName name)

end Location

end Gatehouse.Database
