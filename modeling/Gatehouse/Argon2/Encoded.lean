import Gatehouse.Argon2.Hash
import Gatehouse.Text.Base64
import Gatehouse.Text.Digits

/-! Encoded password hashes: the variant, the version, the parameters, the salt and the tag, each
after a dollar sign. Version and parameters may be left out and then have their defaults. -/
namespace Gatehouse.Argon2

structure Encoded where
  params : Params
  salt : Bytes
  tag : Bytes

namespace Encoded

def defaultMemory : Nat := 19456
def defaultPasses : Nat := 2
def defaultLanes : Nat := 1
def defaultTagLength : Nat := 32

/-! ## Reading -/

/-- A decimal below `2^32` without leading zeros. -/
def decimal? (cs : List Char) : Option Nat := do
  let n ← Text.digits? cs
  guard (n < UInt32.size ∧ (cs.head? = some '0' → cs = ['0']))
  return n

def isNameChar (c : Char) : Bool := c.isLower || c.isDigit || c == '-'

def isValueChar (c : Char) : Bool := c.isAlphanum || ['/', '+', '.', '-'].contains c

def pairs? (cs : List Char) : Option (List (List Char × List Char)) := do
  guard (cs.length ≤ 127)
  (cs.splitOn ',').mapM fun pair =>
    match pair.splitOn '=' with
    | [name, value] =>
      if name ≠ [] ∧ name.length ≤ 32 ∧ name.all isNameChar ∧ value.length ≤ 64 ∧
          value.all isValueChar then
        some (name, value)
      else none
    | _ => none

def shortBytes? (most : Nat) (cs : List Char) : Option Bytes := do
  let bytes ← Text.Base64.standard.decode? cs
  guard (bytes.length ≤ most)
  return bytes

/-- One parameter; a later value of the same name replaces an earlier one. -/
def setParam (p : Params) (pair : List Char × List Char) : Option Params :=
  match String.ofList pair.1 with
  | "m" => (decimal? pair.2).map fun n => { p with memory := n }
  | "t" => (decimal? pair.2).map fun n => { p with passes := n }
  | "p" => (decimal? pair.2).map fun n => { p with lanes := n }
  | "keyid" => (shortBytes? 8 pair.2).map fun _ => p
  | "data" => (shortBytes? 32 pair.2).map fun bytes => { p with associated := bytes }
  | _ => none

def salt? (cs : List Char) : Option Bytes := do
  guard (4 ≤ cs.length ∧ cs.length ≤ 64)
  let bytes ← Text.Base64.standard.decode? cs
  guard (8 ≤ bytes.length)
  return bytes

def tag? (cs : List Char) : Option Bytes := do
  let bytes ← Text.Base64.standard.decode? cs
  guard (10 ≤ bytes.length ∧ bytes.length ≤ 64)
  return bytes

/-- The version field, if the first field is one, and the fields after it. -/
def takeVersion : List (List Char) → Option (Version × List (List Char))
  | ('v' :: '=' :: cs) :: fields =>
    if cs.contains ',' then some (.newer, ('v' :: '=' :: cs) :: fields)
    else do
      let version ← Version.ofNumber? (← decimal? cs)
      return (version, fields)
  | fields => some (.newer, fields)

def takePairs : List (List Char) → Option (List (List Char × List Char) × List (List Char))
  | field :: fields =>
    if field.contains '=' then (pairs? field).map fun pairs => (pairs, fields)
    else some ([], field :: fields)
  | [] => some ([], [])

def parse? (s : String) : Option Encoded := do
  match s.toList.splitOn '$' with
  | [] :: name :: fields =>
    let variant ← Variant.ofName? (String.ofList name)
    let (version, fields) ← takeVersion fields
    let (pairs, fields) ← takePairs fields
    match fields with
    | [salt, tag] =>
      let salt ← salt? salt
      let tag ← tag? tag
      let params ← pairs.foldlM setParam
        ⟨variant, version, defaultMemory, defaultPasses, defaultLanes, [], tag.length⟩
      guard params.isValid
      return ⟨params, salt, tag⟩
    | _ => none
  | _ => none

/-! ## Writing -/

def header (p : Params) : String :=
  s!"${p.variant.name}$v={p.version.number}$m={p.memory},t={p.passes},p={p.lanes}"

def base64 (bytes : Bytes) : String := String.ofList (Text.Base64.standard.encode bytes)

def render (e : Encoded) : String :=
  s!"{header e.params}${base64 e.salt}${base64 e.tag}"

/-! ## Use -/

def matchesPassword (e : Encoded) (password : Bytes) : Bool :=
  hash e.params password e.salt == e.tag

def ofPassword (salt password : Bytes) : Encoded :=
  let params := ⟨.id, .newer, defaultMemory, defaultPasses, defaultLanes, [], defaultTagLength⟩
  ⟨params, salt, hash params password salt⟩

end Encoded

end Gatehouse.Argon2
