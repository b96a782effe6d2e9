/-! Decimal digits: reading the number that a row of digits spells. An empty row spells nothing. -/
namespace Gatehouse.Text

def digitValue (c : Char) : Nat := c.toNat - '0'.toNat

def digitsValue (cs : List Char) : Nat :=
  cs.foldl (fun n c => 10 * n + digitValue c) 0

/-- The number spelled by a nonempty row of ASCII digits; leading zeros are allowed. -/
def digits? (cs : List Char) : Option Nat :=
  if cs ≠ [] ∧ cs.all Char.isDigit then some (digitsValue cs) else none

def unsigned? : List Char → Option Nat
  | '+' :: cs => digits? cs
  | cs => digits? cs

def padded (width n : Nat) : List Char :=
  let digits := Nat.toDigits 10 n
  List.replicate (width - digits.length) '0' ++ digits

end Gatehouse.Text
