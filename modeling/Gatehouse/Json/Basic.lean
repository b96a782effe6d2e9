import Gatehouse.Json.Numeral

/-! JSON values as they are written: members keep their order and their repetitions, numbers keep
their digits, and a string literal keeps whether it is written in escapes and whether it spells a
text. -/
namespace Gatehouse

inductive Spelling where
  /-- A text that stands in the literal as it is. -/
  | plain (value : String)
  /-- A text of which some characters are written as escapes. -/
  | escaped (value : String)
  /-- No text. A reader notices it after the closing quote, or else on the way there. -/
  | hole (readToEnd : Bool)
deriving DecidableEq

def Spelling.text? : Spelling → Option String
  | plain value | escaped value => some value
  | hole _ => none

inductive Json where
  | null
  | bool (value : Bool)
  | number (value : Numeral)
  | text (value : Spelling)
  | array (items : List Json)
  | object (members : List (Spelling × Json))

namespace Json

def int (n : Int) : Json := .number (.ofInt n)

def str (s : String) : Json := .text (.plain s)

def record (fields : List (String × Json)) : Json :=
  .object (fields.map fun (name, value) => (.plain name, value))

def int? : Json → Option Int
  | .number n => n.int?
  | _ => none

def string? : Json → Option String
  | .text s => s.text?
  | _ => none

def bool? : Json → Option Bool
  | .bool b => some b
  | _ => none

def items? : Json → Option (List Json)
  | .array items => some items
  | _ => none

/-- The value of the first member of that name. -/
def member? (j : Json) (name : String) : Option Json :=
  match j with
  | .object members => (members.find? fun member => member.1.text? == some name).map (·.2)
  | _ => none

end Json

end Gatehouse
