import Gatehouse.Text.Bytes

/-! Bytes as pairs of hexadecimal digits, in either case when read and in lowercase when written. -/
namespace Gatehouse.Text

def hexDigit? (c : Char) : Option Nat :=
  if '0' ≤ c ∧ c ≤ '9' then some (c.toNat - '0'.toNat)
  else if 'a' ≤ c ∧ c ≤ 'f' then some (c.toNat - 'a'.toNat + 10)
  else if 'A' ≤ c ∧ c ≤ 'F' then some (c.toNat - 'A'.toNat + 10)
  else none

def hexBytes? : List Char → Option Bytes
  | [] => some []
  | high :: low :: rest => do
    let high ← hexDigit? high
    let low ← hexDigit? low
    return UInt8.ofNat (16 * high + low) :: (← hexBytes? rest)
  | [_] => none

def hexByte (byte : UInt8) : List Char :=
  [Nat.digitChar (byte.toNat / 16), Nat.digitChar (byte.toNat % 16)]

def hex (bytes : Bytes) : List Char := bytes.flatMap hexByte

end Gatehouse.Text
