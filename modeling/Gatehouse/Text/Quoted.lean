import Gatehouse.Text.Concealed

/-! Quoted text, as diagnostics show it: between double quotes, with a backslash form for the quote,
the backslash, the four named controls and every concealed character. -/
namespace Gatehouse.Text

def hexNumeral (n : Nat) : List Char := Nat.toDigits 16 n

def quotedChar (c : Char) : List Char :=
  match c with
  | '\x00' => ['\\', '0']
  | '\t' => ['\\', 't']
  | '\n' => ['\\', 'n']
  | '\r' => ['\\', 'r']
  | '"' => ['\\', '"']
  | '\\' => ['\\', '\\']
  | c => if concealed c then '\\' :: 'u' :: '\x7b' :: hexNumeral c.toNat ++ ['\x7d'] else [c]

def quoted (s : String) : String :=
  String.ofList ('"' :: s.toList.flatMap quotedChar ++ ['"'])

end Gatehouse.Text
