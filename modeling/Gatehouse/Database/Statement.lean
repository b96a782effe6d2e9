import Gatehouse.Database.Fault
import Gatehouse.Text.Hex

/-! The tokens of a statement. Blanks and comments stand between tokens, and each token is as long
as it can be. A name is a word that is not reserved, or any text in quotes. -/
namespace Gatehouse.Database.Statement

inductive Kind where
  | name (value : String)
  /-- A reserved word, a number or a mark. -/
  | other
  /-- Nothing: it breaks off, goes on where it may not, or starts with no character of a token. -/
  | unknown
deriving DecidableEq

structure Token where
  written : List Char
  kind : Kind
deriving DecidableEq

namespace Token

def lower (t : Token) : String := (String.ofList t.written).toLower

def is (t : Token) (word : String) : Bool := t.lower = word

def refusal (t : Token) : Fault :=
  match t.kind with
  | .unknown => .unknownToken (String.ofList t.written)
  | _ => .misplaced (String.ofList t.written)

end Token

/-! ## Gaps -/

def isBlank (c : Char) : Bool := [' ', '\t', '\n', '\x0c', '\r', '\ufeff'].contains c

/-- The length of a comment's text with the mark that closes it, if one does. -/
def lengthToClose : List Char → Nat
  | '*' :: '/' :: _ => 2
  | _ :: rest => lengthToClose rest + 1
  | [] => 0

def gapLength : List Char → Nat
  | '-' :: '-' :: rest => 2 + (rest.takeWhile (· ≠ '\n')).length
  | '/' :: '*' :: c :: rest => 2 + lengthToClose (c :: rest)
  | c :: _ => if isBlank c then 1 else 0
  | [] => 0

/-! ## Words -/

/-- The words that are no names. -/
def reserved : List String := ["add", "all", "alter", "and", "as", "autoincrement", "between",
  "case", "check", "collate", "commit", "constraint", "create", "default", "deferrable", "delete",
  "distinct", "drop", "else", "escape", "except", "exists", "foreign", "from", "group", "having",
  "in", "index", "insert", "intersect", "into", "is", "isnull", "join", "limit", "not", "nothing",
  "notnull", "null", "on", "or", "order", "primary", "references", "returning", "select", "set",
  "table", "then", "to", "transaction", "union", "unique", "update", "using", "values", "when",
  "where"]

/-- A character within a word: every character that is not ASCII is one. -/
def inWord (c : Char) : Bool := c.isAlphanum || c == '_' || c == '$' || 0x80 ≤ c.toNat

def word (cs : List Char) : Token :=
  let written := cs.takeWhile inWord
  let text := String.ofList written
  ⟨written, if reserved.contains text.toLower then .other else .name text⟩

/-! ## Quoted names -/

/-- A text up to the mark that closes it, as it is written and as it is meant; within it the mark is
written twice. -/
def closed? (mark : Char) : List Char → Option (List Char × List Char)
  | [] => none
  | c :: rest =>
    if c ≠ mark then (closed? mark rest).map fun (written, text) => (c :: written, c :: text)
    else match rest with
      | d :: rest =>
        if d ≠ mark then some ([c], [])
        else (closed? mark rest).map fun (written, text) => (c :: d :: written, c :: text)
      | [] => some ([c], [])

def quoted (mark : Char) (rest : List Char) : Token :=
  match closed? mark rest with
  | some (written, text) => ⟨mark :: written, .name (String.ofList text)⟩
  | none => ⟨mark :: rest, .unknown⟩

def bracketed (rest : List Char) : Token :=
  let text := rest.takeWhile (· ≠ ']')
  if text = rest then ⟨'[' :: rest, .unknown⟩
  else ⟨'[' :: text ++ [']'], .name (String.ofList text)⟩

/-! ## Numbers and marks -/

def inNumber (c : Char) : Bool := c.isDigit || c == '_'

def fractionPart : List Char → List Char
  | '.' :: rest => '.' :: rest.takeWhile inNumber
  | _ => []

def exponentPart (cs : List Char) : List Char :=
  let mark := cs.take 1
  let sign := ((cs.drop 1).take 1).filter ['+', '-'].contains
  let digits := (cs.drop (1 + sign.length)).takeWhile inNumber
  if (mark = ['e'] ∨ mark = ['E']) ∧ digits.head?.any Char.isDigit then mark ++ sign ++ digits
  else []

def decimalPart (cs : List Char) : List Char :=
  let whole := cs.takeWhile inNumber
  let fraction := fractionPart (cs.drop whole.length)
  whole ++ fraction ++ exponentPart (cs.drop (whole.length + fraction.length))

def numberPart : List Char → List Char
  | '0' :: x :: d :: rest =>
    if (x = 'x' ∨ x = 'X') ∧ (Text.hexDigit? d).isSome then
      '0' :: x :: d :: rest.takeWhile fun c => (Text.hexDigit? c).isSome || c == '_'
    else decimalPart ('0' :: x :: d :: rest)
  | cs => decimalPart cs

/-- A number, which may not go on like a word. -/
def number (cs : List Char) : Token :=
  let digits := numberPart cs
  let more := (cs.drop digits.length).takeWhile inWord
  ⟨digits ++ more, if more = [] then .other else .unknown⟩

/-- A parameter; one after a question mark has a number, the others have names. -/
def parameter (first : Char) (rest : List Char) : Token :=
  if first = '?' then ⟨'?' :: rest.takeWhile Char.isDigit, .other⟩
  else
    let name := rest.takeWhile inWord
    ⟨first :: name, if name = [] then .unknown else .other⟩

/-- The marks, of which the longer ones go first. -/
def marks : List String := ["->>", "->", "==", "<=", "<>", "<<", ">=", ">>", "!=", "||", "(", ")",
  ";", "+", "-", "*", "/", "%", "=", "<", ">", "|", ",", "&", "~", "."]

def mark (cs : List Char) : Token :=
  match (marks.map String.toList).find? (·.isPrefixOf cs) with
  | some mark => ⟨mark, .other⟩
  | none => ⟨cs.take 1, .unknown⟩

/-! ## Tokens -/

def token (c : Char) (rest : List Char) : Token :=
  if c = '"' ∨ c = '\'' ∨ c = '\x60' then quoted c rest
  else if c = '[' then bracketed rest
  else if c.isDigit ∨ c = '.' ∧ rest.head?.any Char.isDigit then number (c :: rest)
  else if ['?', '$', '@', '#', ':'].contains c then parameter c rest
  else if inWord c then word (c :: rest)
  else mark (c :: rest)

def tokens : List Char → List Token
  | [] => []
  | c :: rest =>
    let gap := gapLength (c :: rest)
    if gap ≠ 0 then tokens (rest.drop (gap - 1))
    else
      let first := token c rest
      first :: tokens (rest.drop (first.written.length - 1))
termination_by cs => cs.length

end Gatehouse.Database.Statement
