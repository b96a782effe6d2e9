/-! Texts as bytes. `symbols` reads bytes as UTF-8 and keeps a hole where no character stands, so a
text is sound exactly where it has no hole. `flaw?` tells where and how the first hole comes about.
-/
namespace Gatehouse

abbrev Bytes := List UInt8

namespace Text

def toBytes (s : String) : Bytes := s.toUTF8.toList

def firstChar? (bytes : ByteArray) : Option Char := bytes.utf8DecodeChar? 0

/-- What a character's first byte asks for: how many more bytes, and the least and the greatest
second byte. -/
def following? (first : UInt8) : Option (Nat × UInt8 × UInt8) :=
  if first < 0xC2 then none
  else if first < 0xE0 then some (1, 0x80, 0xBF)
  else if first = 0xE0 then some (2, 0xA0, 0xBF)
  else if first = 0xED then some (2, 0x80, 0x9F)
  else if first < 0xF0 then some (2, 0x80, 0xBF)
  else if first = 0xF0 then some (3, 0x90, 0xBF)
  else if first < 0xF4 then some (3, 0x80, 0xBF)
  else if first = 0xF4 then some (3, 0x80, 0x8F)
  else none

/-- How many bytes, the first one included, go together before a character breaks off, and whether
the bytes end there although the character could go on. -/
def broken (first : UInt8) (rest : Bytes) : Nat × Bool :=
  match following? first, rest with
  | none, _ => (1, false)
  | some _, [] => (1, true)
  | some (more, low, high), second :: rest =>
    if low ≤ second ∧ second ≤ high then
      let others := (rest.take (more - 1)).takeWhile fun byte => 0x80 ≤ byte && byte ≤ 0xBF
      (2 + others.length, others.length = rest.length)
    else (1, false)

def symbols : Bytes → List (Option Char)
  | [] => []
  | byte :: rest =>
    match firstChar? ⟨(byte :: rest.take 3).toArray⟩ with
    | none => none :: symbols (rest.drop ((broken byte rest).1 - 1))
    | some c => some c :: symbols (rest.drop (c.utf8Size - 1))
termination_by bytes => bytes.length

def ofBytes? (bytes : Bytes) : Option String := String.fromUTF8? ⟨bytes.toArray⟩

def ofBytesLossy (bytes : Bytes) : String :=
  String.ofList ((symbols bytes).map fun c => c.getD '\ufffd')

structure Flaw where
  /-- The number of bytes before it. -/
  index : Nat
  /-- The number of bytes that spell nothing, or `none` if the bytes end within a character. -/
  length : Option Nat
deriving DecidableEq

def flawAfter? (index : Nat) : Bytes → Option Flaw
  | [] => none
  | byte :: rest =>
    match firstChar? ⟨(byte :: rest.take 3).toArray⟩ with
    | none =>
      let (length, cut) := broken byte rest
      some ⟨index, if cut then none else some length⟩
    | some c => flawAfter? (index + c.utf8Size) (rest.drop (c.utf8Size - 1))
termination_by bytes => bytes.length

def flaw? (bytes : Bytes) : Option Flaw := flawAfter? 0 bytes

end Text

end Gatehouse
