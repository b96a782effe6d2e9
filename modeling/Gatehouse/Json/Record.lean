import Gatehouse.Json.Basic

/-! Records in JSON. A record is written as an object of its fields in any order, or as the array of
all their values in the order of declaration. Other members are ignored; a field that occurs twice,
or a key that spells no text, spoils the record. -/
namespace Gatehouse.Json

/-- The value of the only member of that name, if there is one; `none` if there are several. -/
def field? (members : List (Spelling × Json)) (name : String) : Option (Option Json) :=
  match members.filter fun member => member.1.text? == some name with
  | [] => some none
  | [(_, value)] => some (some value)
  | _ => none

def fields? (names : List String) : Json → Option (List (Option Json))
  | .object members =>
    if members.all fun member => member.1.text?.isSome then names.mapM (field? members) else none
  | .array items => if items.length = names.length then some (items.map some) else none
  | _ => none

def allFields? (names : List String) (j : Json) : Option (List Json) := do
  (← fields? names j).mapM id

/-- Whether a value can be held in memory whole: its texts and keys are sound, its numbers finite,
and arrays and objects nest no deeper than `depth`. -/
def fits (depth : Nat) : Json → Bool
  | .null | .bool _ => true
  | .number n => n.isFinite
  | .text s => s.text?.isSome
  | .array items =>
    match depth with
    | 0 => false
    | depth + 1 => items.all (fits depth)
  | .object members =>
    match depth with
    | 0 => false
    | depth + 1 => members.all fun (key, value) => key.text?.isSome && fits depth value
termination_by structural depth

end Gatehouse.Json
