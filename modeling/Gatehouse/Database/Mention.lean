import Gatehouse.Database.Statement

/-! How statements mention a table: by a name, with the place of the table in front if it is given,
and on a condition if the statement has one. -/
namespace Gatehouse.Database

structure Mention where
  /-- Where the table is: as it is written and as it is meant. -/
  place : Option (String × String)
  written : String
  name : String
  /-- Whether nothing is to be done if the table is there already, or is not there to begin with. -/
  conditional : Bool
deriving DecidableEq

namespace Mention

open Statement (Token tokens)

def takeWords : List String → List Token → Except Fault (List Token)
  | [], ts => .ok ts
  | word :: words, t :: ts => if t.is word then takeWords words ts else .error t.refusal
  | _ :: _, [] => .error .incomplete

def takeName : List Token → Except Fault ((String × String) × List Token)
  | [] => .error .incomplete
  | t :: ts =>
    match t.kind with
    | .name value => .ok ((String.ofList t.written, value), ts)
    | _ => .error t.refusal

/-- The mention that a text makes in a statement which may state a condition in the given words and
goes on with the given tail. A statement ends before a NUL. -/
def read (condition : List String) (tail text : String) : Except Fault Mention := do
  let ts := tokens ((text ++ tail).toList.takeWhile (· ≠ '\x00'))
  let conditional := ts.head?.any (·.is "if")
  let ts ← if conditional then takeWords ("if" :: condition) ts else pure ts
  let (first, ts) ← takeName ts
  let (place, last, ts) ← match ts with
    | t :: rest =>
      if t.is "." then do
        let (last, rest) ← takeName rest
        pure (some first, last, rest)
      else pure (none, first, ts)
    | [] => pure (none, first, ts)
  match (← takeWords ((tokens tail.toList).map Token.lower) ts).dropWhile (·.is ";") with
  | [] => return ⟨place, last.1, last.2, conditional⟩
  | t :: _ => throw t.refusal

def toMake (text : String) : Except Fault Mention :=
  read ["not", "exists"] " (id INTEGER)" text

def toDrop (text : String) : Except Fault Mention := read ["exists"] "" text

def ifAny (name : String) : Mention := ⟨none, name, name, true⟩

def isHere (m : Mention) : Bool := m.place.all fun place => place.2.toLower = "main"

def fullName (m : Mention) : String :=
  match m.place with
  | some place => place.2 ++ "." ++ m.name
  | none => m.name

end Mention

end Gatehouse.Database
