import Gatehouse.Text.Bytes

/-! Base64 without padding, in the standard and in the URL-safe alphabet. Decoding is strict: it
accepts exactly the texts that encoding produces, so unused bits are zero and no other character
occurs. -/
namespace Gatehouse.Text

/-- The two digits in which base64 alphabets differ. -/
structure Base64 where
  digit62 : Char
  digit63 : Char

namespace Base64

def standard : Base64 := ⟨'+', '/'⟩

def urlSafe : Base64 := ⟨'-', '_'⟩

def digit (b : Base64) (n : Nat) : Char :=
  if n < 26 then Char.ofNat ('A'.toNat + n)
  else if n < 52 then Char.ofNat ('a'.toNat + (n - 26))
  else if n < 62 then Char.ofNat ('0'.toNat + (n - 52))
  else if n = 62 then b.digit62
  else b.digit63

def value? (b : Base64) (c : Char) : Option Nat :=
  if c.isUpper then some (c.toNat - 'A'.toNat)
  else if c.isLower then some (c.toNat - 'a'.toNat + 26)
  else if c.isDigit then some (c.toNat - '0'.toNat + 52)
  else if c = b.digit62 then some 62
  else if c = b.digit63 then some 63
  else none

/-- Three bytes become four digits; one or two left over become two or three. -/
def encode (b : Base64) : Bytes → List Char
  | [] => []
  | [x] => [b.digit (x.toNat / 4), b.digit (x.toNat % 4 * 16)]
  | [x, y] =>
    [b.digit (x.toNat / 4), b.digit (x.toNat % 4 * 16 + y.toNat / 16),
      b.digit (y.toNat % 16 * 4)]
  | x :: y :: z :: rest =>
    b.digit (x.toNat / 4) :: b.digit (x.toNat % 4 * 16 + y.toNat / 16) ::
      b.digit (y.toNat % 16 * 4 + z.toNat / 64) :: b.digit (z.toNat % 64) :: b.encode rest

/-- The bytes spelled by digit values; the bits that no byte uses are zero. -/
def join : List Nat → Option Bytes
  | [] => some []
  | [_] => none
  | [p, q] => if q % 16 = 0 then some [UInt8.ofNat (4 * p + q / 16)] else none
  | [p, q, r] =>
    if r % 4 = 0 then
      some [UInt8.ofNat (4 * p + q / 16), UInt8.ofNat (q % 16 * 16 + r / 4)]
    else none
  | p :: q :: r :: s :: rest => do
    let tail ← join rest
    return UInt8.ofNat (4 * p + q / 16) :: UInt8.ofNat (q % 16 * 16 + r / 4) ::
      UInt8.ofNat (r % 4 * 64 + s) :: tail

def decode? (b : Base64) (cs : List Char) : Option Bytes := do
  join (← cs.mapM b.value?)

end Base64

end Gatehouse.Text
