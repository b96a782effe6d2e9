import Gatehouse.Json.Basic
import Gatehouse.Text.Hex

/-! The lexemes of JSON text. A word is the longest run of characters that are neither blank nor
mark nor quote; it is `null`, a truth value or a numeral, or there are no lexemes. -/
namespace Gatehouse.Json

/-- A character of the text, or `none` where its bytes spell none. -/
abbrev Symbol := Option Char

inductive Lexeme where
  | openArray
  | closeArray
  | openObject
  | closeObject
  | comma
  | colon
  | literal (value : Json)

def isSpace (c : Char) : Bool := c == ' ' || c == '\t' || c == '\n' || c == '\r'

def mark? : Char → Option Lexeme
  | '[' => some .openArray
  | ']' => some .closeArray
  | '\x7b' => some .openObject
  | '\x7d' => some .closeObject
  | ',' => some .comma
  | ':' => some .colon
  | _ => none

/-! ## Words -/

def exponent? : List Char → Option (Bool × List Char)
  | '-' :: cs => if cs ≠ [] ∧ cs.all Char.isDigit then some (true, cs) else none
  | '+' :: cs => if cs ≠ [] ∧ cs.all Char.isDigit then some (false, cs) else none
  | cs => if cs ≠ [] ∧ cs.all Char.isDigit then some (false, cs) else none

def exponentPart? : List Char → Option (Option (Bool × List Char))
  | [] => some none
  | c :: cs => if c = 'e' ∨ c = 'E' then (exponent? cs).map some else none

/-- A numeral: an optional minus sign, digits without a leading zero, then a fraction and an
exponent if any. -/
def numeral? (cs : List Char) : Option Numeral := do
  let (negative, cs) := match cs with
    | '-' :: cs => (true, cs)
    | cs => (false, cs)
  let whole := cs.takeWhile Char.isDigit
  guard (whole ≠ [] ∧ (whole.head? = some '0' → whole = ['0']))
  match cs.dropWhile Char.isDigit with
  | '.' :: cs =>
    let fraction := cs.takeWhile Char.isDigit
    guard (fraction ≠ [])
    return ⟨negative, whole, some fraction, ← exponentPart? (cs.dropWhile Char.isDigit)⟩
  | cs => return ⟨negative, whole, none, ← exponentPart? cs⟩

def word? (cs : List Char) : Option Json :=
  if cs = ['n', 'u', 'l', 'l'] then some .null
  else if cs = ['t', 'r', 'u', 'e'] then some (.bool true)
  else if cs = ['f', 'a', 'l', 's', 'e'] then some (.bool false)
  else (numeral? cs).map .number

/-! ## String literals -/

/-- A code that is no character, for bytes that spell none. -/
def holeCode : Nat := 0x110000

def isHighHalf (n : Nat) : Bool := 0xD800 ≤ n && n < 0xDC00

def isLowHalf (n : Nat) : Bool := 0xDC00 ≤ n && n < 0xE000

/-- Characters spelled by codes, where a high half followed by a low half makes one character. -/
def joinHalves : List Nat → Option (List Char)
  | [] => some []
  | n :: rest =>
    if h : n.isValidChar then (joinHalves rest).map (Char.ofNatAux n h :: ·)
    else if isHighHalf n then
      match rest with
      | low :: rest =>
        if isLowHalf low then
          (joinHalves rest).map (Char.ofNat (0x10000 + (n - 0xD800) * 0x400 + (low - 0xDC00)) :: ·)
        else none
      | [] => none
    else none

def endsInHalf : List Nat → Bool
  | [] => true
  | n :: rest =>
    if isHighHalf n then
      match rest with
      | [] => true
      | low :: rest => isLowHalf low && endsInHalf rest
    else !isLowHalf n && endsInHalf rest

/-- What a literal of these codes spells. A reader meets a half without its other half where it
stands, a high half at the end with the closing quote, and bytes that are no text after that. -/
def spelling (codes : List Nat) (escaped : Bool) : Spelling :=
  match joinHalves codes with
  | some cs => if escaped then .escaped (String.ofList cs) else .plain (String.ofList cs)
  | none => .hole (endsInHalf codes)

def escapeCode? : Char → Option Nat
  | '"' => some 0x22
  | '\\' => some 0x5C
  | '/' => some 0x2F
  | 'b' => some 8
  | 'f' => some 12
  | 'n' => some 10
  | 'r' => some 13
  | 't' => some 9
  | _ => none

/-! ## The scanner -/

/-- Where the scanner stands between two symbols. What it has collected is in reverse. -/
inductive Scan where
  | gap
  | word (chars : List Char)
  /-- Inside a string literal, with whether it has had an escape. -/
  | quote (codes : List Nat) (escaped : Bool)
  | escape (codes : List Nat)
  /-- Inside `\u`, with the number of digits still owed less one. -/
  | unicode (codes : List Nat) (owed : Nat) (code : Nat)

structure Scanner where
  place : Scan
  found : List Lexeme

def Scanner.start (found : List Lexeme) (c : Char) : Scanner :=
  if isSpace c then ⟨.gap, found⟩
  else if c = '"' then ⟨.quote [] false, found⟩
  else
    match mark? c with
    | some lexeme => ⟨.gap, lexeme :: found⟩
    | none => ⟨.word [c], found⟩

def endsWord (c : Char) : Bool := isSpace c || c == '"' || (mark? c).isSome

def Scanner.step (s : Scanner) (symbol : Symbol) : Option Scanner :=
  match s.place, symbol with
  | .gap, some c => some (start s.found c)
  | .word chars, some c =>
    if endsWord c then
      (word? chars.reverse).map fun value => start (.literal value :: s.found) c
    else some ⟨.word (c :: chars), s.found⟩
  | .quote codes escaped, some c =>
    if c = '"' then some ⟨.gap, .literal (.text (spelling codes.reverse escaped)) :: s.found⟩
    else if c = '\\' then some ⟨.escape codes, s.found⟩
    else if c.toNat < 0x20 then none
    else some ⟨.quote (c.toNat :: codes) escaped, s.found⟩
  | .quote codes escaped, none => some ⟨.quote (holeCode :: codes) escaped, s.found⟩
  | .escape codes, some c =>
    if c = 'u' then some ⟨.unicode codes 3 0, s.found⟩
    else (escapeCode? c).map fun code => ⟨.quote (code :: codes) true, s.found⟩
  | .unicode codes owed code, some c =>
    (Text.hexDigit? c).map fun digit =>
      match owed with
      | 0 => ⟨.quote ((16 * code + digit) :: codes) true, s.found⟩
      | owed + 1 => ⟨.unicode codes owed (16 * code + digit), s.found⟩
  | _, none => none

def lexemes? (symbols : List Symbol) : Option (List Lexeme) := do
  let s ← symbols.foldlM Scanner.step ⟨.gap, []⟩
  match s.place with
  | .gap => some s.found.reverse
  | .word chars => (word? chars.reverse).map fun value => (.literal value :: s.found).reverse
  | _ => none

end Gatehouse.Json
