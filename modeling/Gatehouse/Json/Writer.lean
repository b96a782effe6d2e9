import Gatehouse.Json.Basic

/-! Writing JSON text without blanks. A string literal escapes the quote, the backslash and the
controls below the space, and shows every other character as itself. -/
namespace Gatehouse.Json

def escaped (c : Char) : List Char :=
  match c with
  | '"' => ['\\', '"']
  | '\\' => ['\\', '\\']
  | '\x08' => ['\\', 'b']
  | '\t' => ['\\', 't']
  | '\n' => ['\\', 'n']
  | '\x0c' => ['\\', 'f']
  | '\r' => ['\\', 'r']
  | c =>
    if c.toNat < 0x20 then
      ['\\', 'u', '0', '0', Nat.digitChar (c.toNat / 16), Nat.digitChar (c.toNat % 16)]
    else [c]

def quotedText (s : String) : List Char := '"' :: s.toList.flatMap escaped ++ ['"']

def renderNumeral (n : Numeral) : List Char :=
  (if n.negative then ['-'] else []) ++ n.whole ++
    (match n.fraction with
      | none => []
      | some digits => '.' :: digits) ++
    match n.exponent with
    | none => []
    | some (negative, digits) => 'e' :: (if negative then ['-'] else []) ++ digits

mutual

def render : Json → List Char
  | .null => ['n', 'u', 'l', 'l']
  | .bool true => ['t', 'r', 'u', 'e']
  | .bool false => ['f', 'a', 'l', 's', 'e']
  | .number n => renderNumeral n
  | .text s => quotedText (s.text?.getD "")
  | .array [] => ['[', ']']
  | .array (item :: items) => '[' :: render item ++ renderItems items
  | .object [] => ['\x7b', '\x7d']
  | .object ((key, value) :: members) =>
    '\x7b' :: quotedText (key.text?.getD "") ++ ':' :: render value ++ renderMembers members

def renderItems : List Json → List Char
  | [] => [']']
  | item :: items => ',' :: render item ++ renderItems items

def renderMembers : List (Spelling × Json) → List Char
  | [] => ['\x7d']
  | (key, value) :: members =>
    ',' :: quotedText (key.text?.getD "") ++ ':' :: render value ++ renderMembers members

end

def compact (j : Json) : String := String.ofList j.render

end Gatehouse.Json
