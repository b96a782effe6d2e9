import Gatehouse.Json.Writer

/-! Writing JSON text for people: every item and member stands on a line of its own, two blanks
further in than what holds it. Empty arrays and objects stay on one line. -/
namespace Gatehouse.Json

def newLine (depth : Nat) : List Char := '\n' :: List.replicate (2 * depth) ' '

mutual

def layOut (depth : Nat) : Json → List Char
  | .array (item :: items) =>
    '[' :: newLine (depth + 1) ++ layOut (depth + 1) item ++ layOutItems depth items
  | .object ((key, value) :: members) =>
    '\x7b' :: newLine (depth + 1) ++ quotedText (key.text?.getD "") ++ ':' :: ' ' ::
      layOut (depth + 1) value ++ layOutMembers depth members
  | j => j.render

def layOutItems (depth : Nat) : List Json → List Char
  | [] => newLine depth ++ [']']
  | item :: items =>
    ',' :: newLine (depth + 1) ++ layOut (depth + 1) item ++ layOutItems depth items

def layOutMembers (depth : Nat) : List (Spelling × Json) → List Char
  | [] => newLine depth ++ ['\x7d']
  | (key, value) :: members =>
    ',' :: newLine (depth + 1) ++ quotedText (key.text?.getD "") ++ ':' :: ' ' ::
      layOut (depth + 1) value ++ layOutMembers depth members

end

def pretty (j : Json) : String := String.ofList (j.layOut 0)

end Gatehouse.Json
