import Gatehouse.Database.Location
import Gatehouse.Text.Digits

/-! What a location comes down to. A name that starts with `file:` is itself a URI, whose parameters
have the last word, unless the location already has settings that are handed on in such a URI. A
name ends before a NUL that is written in a URI. -/
namespace Gatehouse.Database

structure Target where
  /-- The path of the file, or `none` for a database in memory. -/
  path : Option String
  create : Bool
  readOnly : Bool
  immutable : Bool
deriving DecidableEq

namespace Location

def beforeNul (s : String) : String := String.ofList (s.toList.takeWhile (· ≠ '\x00'))

def spelled (cs : List Char) : String := beforeNul (Text.ofBytesLossy (Text.unescape cs))

/-! ## Names that are URIs -/

/-- The ranks of the ways of access; a URI may not ask for more than the location grants. -/
def rank (l : Location) : Nat := if l.readOnly then 1 else if l.create then 6 else 2

def setAccess (l : Location) (name : String) : Except Fault Location := do
  let wanted ← match name with
    | "ro" => pure { l with inMemory := false, readOnly := true, create := false }
    | "rw" => pure { l with inMemory := false, readOnly := false, create := false }
    | "rwc" => pure { l with inMemory := false, readOnly := false, create := true }
    | "memory" => pure { l with inMemory := true, readOnly := false, create := false }
    | _ => throw (.unknownAccess "access" name)
  if !l.inMemory && !wanted.inMemory && l.rank < wanted.rank then throw (.forbiddenAccess name)
  return wanted

def leadingNumber? (cs : List Char) : Option Nat :=
  let hexadecimal := ((cs.drop 2).map Text.hexDigit?).takeWhile Option.isSome
  let decimal := cs.takeWhile Char.isDigit
  if hexadecimal ≠ [] ∧ (cs.take 2 = ['0', 'x'] ∨ cs.take 2 = ['0', 'X']) then
    some (hexadecimal.foldl (fun n digit => 16 * n + digit.getD 0) 0)
  else if decimal ≠ [] then some (Text.digitsValue decimal)
  else none

/-- Whether a setting of a URI is switched on: by a word, or by a number that is not zero in its
last eight bits. -/
def isOn (value : String) : Bool :=
  match leadingNumber? value.toList with
  | none => ["on", "yes", "true"].contains value.toLower
  | some n => n < 0x80000000 && n % 256 ≠ 0

def setInUri (l : Location) (name value : String) : Except Fault Location :=
  match name with
  | "vfs" => .ok { l with driver := some value }
  | "mode" => l.setAccess value
  | "cache" =>
    if ["shared", "private"].contains value then .ok l else .error (.unknownAccess "cache" value)
  | _ => .ok l

/-- The part of a URI after the scheme and the authority, which can only be the own machine. -/
def afterAuthority (cs : List Char) : Except Fault (List Char) :=
  match cs with
  | '/' :: '/' :: rest =>
    let authority := String.ofList (rest.takeWhile (· ≠ '/'))
    if ["", "localhost"].contains authority then .ok (rest.dropWhile (· ≠ '/'))
    else .error (.unknownAuthority authority)
  | cs => .ok cs

def readUri (l : Location) (cs : List Char) : Except Fault Location := do
  let (name, query) := Text.splitFirst '?' ((← afterAuthority cs).takeWhile (· ≠ '#'))
  let settings := (Text.rawPairs query).map fun (name, value) => (spelled name, spelled value)
  let settings := settings.filter (·.1 ≠ "")
  settings.foldlM (fun l (name, value) => l.setInUri name value)
    { l with name := spelled name, immutable := (settings.lookup "immutable").any isOn }

/-! ## Targets -/

def handOn (l : Location) : Location :=
  { l with
    name := beforeNul l.name
    driver := l.driver.map fun name => beforeNul (name.map fun c => if c = ' ' then '+' else c) }

def readName (l : Location) : Except Fault Location :=
  if l.immutable || l.driver.isSome then .ok l.handOn
  else if l.name.contains '\x00' then .error .nulInName
  else match l.name.toList with
    | 'f' :: 'i' :: 'l' :: 'e' :: ':' :: rest => l.readUri rest
    | _ => .ok l

def fileDrivers : List String := ["unix", "unix-none", "unix-dotfile", "unix-excl"]

def memoryDriver : String := "memdb"

/-- What a location comes down to. A database without a name is one in memory; there it does not
matter whether the file that it does not have is immutable. -/
def target (l : Location) : Except Fault Target := do
  let l ← l.readName
  let driver := l.driver.getD "unix"
  if !(memoryDriver :: fileDrivers).contains driver then throw (.unknownDriver driver)
  if l.inMemory || ["", ":memory:"].contains l.name then return ⟨none, l.create, l.readOnly, false⟩
  return ⟨if driver = memoryDriver then none else some l.name, l.create, l.readOnly, l.immutable⟩

end Location

end Gatehouse.Database
