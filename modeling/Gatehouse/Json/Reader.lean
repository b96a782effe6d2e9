import Gatehouse.Json.Lexeme
import Gatehouse.Text.Bytes

/-! Reading JSON text. Lexemes are assembled with an explicit list of open arrays and objects, so
values may nest to any depth. -/
namespace Gatehouse.Json

abbrev Member := Spelling × Json

inductive Frame where
  | array (done : List Json)
  | object (done : List Member) (key : Spelling)

inductive Await where
  | value
  /-- After `[`. -/
  | firstItem
  | afterItem (done : List Json)
  /-- After an opening brace. -/
  | firstKey
  | key (done : List Member)
  | colon (done : List Member) (key : Spelling)
  | afterMember (done : List Member)
  | nothing (result : Json)

structure Assembly where
  enclosing : List Frame
  await : Await

namespace Assembly

def finish (value : Json) : List Frame → Assembly
  | [] => ⟨[], .nothing value⟩
  | .array done :: frames => ⟨frames, .afterItem (value :: done)⟩
  | .object done key :: frames => ⟨frames, .afterMember ((key, value) :: done)⟩

def begin (frames : List Frame) : Lexeme → Option Assembly
  | .literal value => some (finish value frames)
  | .openArray => some ⟨frames, .firstItem⟩
  | .openObject => some ⟨frames, .firstKey⟩
  | _ => none

def step (a : Assembly) (lexeme : Lexeme) : Option Assembly :=
  match a.await, lexeme with
  | .value, lexeme => begin a.enclosing lexeme
  | .firstItem, .closeArray => some (finish (.array []) a.enclosing)
  | .firstItem, lexeme => begin (.array [] :: a.enclosing) lexeme
  | .afterItem done, .comma => some ⟨.array done :: a.enclosing, .value⟩
  | .afterItem done, .closeArray => some (finish (.array done.reverse) a.enclosing)
  | .firstKey, .closeObject => some (finish (.object []) a.enclosing)
  | .firstKey, .literal (.text key) => some ⟨a.enclosing, .colon [] key⟩
  | .key done, .literal (.text key) => some ⟨a.enclosing, .colon done key⟩
  | .colon done key, .colon => some ⟨.object done key :: a.enclosing, .value⟩
  | .afterMember done, .comma => some ⟨a.enclosing, .key done⟩
  | .afterMember done, .closeObject => some (finish (.object done.reverse) a.enclosing)
  | _, _ => none

end Assembly

def ofLexemes? (lexemes : List Lexeme) : Option Json := do
  match ← lexemes.foldlM Assembly.step ⟨[], .value⟩ with
  | ⟨[], .nothing value⟩ => some value
  | _ => none

def ofSymbols? (symbols : List Symbol) : Option Json := do
  ofLexemes? (← lexemes? symbols)

def parse? (s : String) : Option Json := ofSymbols? (s.toList.map some)

/-- The value that bytes spell. Bytes that are no text are allowed inside string literals. -/
def ofBytes? (bytes : Bytes) : Option Json := ofSymbols? (Text.symbols bytes)

end Gatehouse.Json
