import Gatehouse.Text.Digits

/-! Numbers as they are written in JSON, and whether a double can hold what a reader makes of them.
The reader takes as many leading digits as 64 bits hold and scales them by a power of ten. It rounds
the digits, the power and their product, so it may find the greatest numbers too large. -/
namespace Gatehouse

structure Numeral where
  negative : Bool
  whole : List Char
  fraction : Option (List Char)
  /-- Whether the exponent is negative, and its digits. -/
  exponent : Option (Bool × List Char)
deriving DecidableEq

namespace Numeral

def ofInt (n : Int) : Numeral := ⟨n < 0, Nat.toDigits 10 n.natAbs, none, none⟩

/-- The integer that a numeral without fraction and exponent denotes; minus zero denotes none. -/
def int? (n : Numeral) : Option Int :=
  match n.fraction, n.exponent with
  | none, none =>
    let value := Text.digitsValue n.whole
    if n.negative then (if value = 0 then none else some (-(value : Int))) else some value
  | _, _ => none

/-- Appends digits to a number as long as it fits in 64 bits; also the digits left over. -/
def append (n : Nat) : List Char → Nat × List Char
  | [] => (n, [])
  | c :: cs =>
    let longer := 10 * n + Text.digitValue c
    if longer < UInt64.size then append longer cs else (n, c :: cs)

def power (n : Numeral) : Int :=
  match n.exponent with
  | none => 0
  | some (true, digits) => -(Text.digitsValue digits : Int)
  | some (false, digits) => Text.digitsValue digits

/-- The digits that a reader keeps, and the power of ten that scales them. -/
def kept (n : Numeral) : Nat × Int :=
  let fraction := n.fraction.getD []
  let (digits, left) := append 0 n.whole
  let (digits, leftInFraction) := append digits fraction
  (digits, n.power + left.length + leftInFraction.length - fraction.length)

/-- The nearest whole number that has 53 bits and then zeros; of two, the even one. -/
def nearestDouble (n : Nat) : Nat :=
  let excess := n.log2 - 52
  let top := n >>> excess
  let rest := n - top <<< excess
  let up := 2 * rest > 1 <<< excess || (2 * rest = 1 <<< excess && top % 2 = 1)
  (if up then top + 1 else top) <<< excess

/-- The least number that rounds to no finite double. -/
def doubleLimit : Nat := 0x3fffffffffffff <<< 970

def greatestPower : Int := 308

def isFinite (n : Numeral) : Bool :=
  let (digits, scale) := n.kept
  digits = 0 || (scale ≤ greatestPower &&
    nearestDouble digits * nearestDouble (Nat.pow 10 scale.toNat) < doubleLimit)

end Numeral

end Gatehouse
