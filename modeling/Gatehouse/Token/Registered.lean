import Gatehouse.Json.Record
import Gatehouse.Token.Claims

/-! The second reading of a payload, for its registered claims. A claim that cannot be read counts
as absent, provided that reading stopped just after it. What stays in the way is a named audience,
which no token of this service has. -/
namespace Gatehouse.Token.Registered

/-- Whether an exponent exceeds 31 bits before its last digit, where reading stops short. -/
def stopsShort (n : Numeral) : Bool :=
  match n.exponent with
  | some (false, digits) =>
    n.kept.1 ≠ 0 && Text.digitsValue digits.dropLast > 0x7fffffff
  | _ => false

mutual

/-- Whether reading a value that cannot be held whole stops just after it. -/
def stopsAtEnd (depth : Nat) : Json → Bool
  | .number n => !stopsShort n
  | .text (.hole readToEnd) => readToEnd
  | .array items =>
    match depth with
    | 0 => false
    | depth + 1 => lastStops depth items
  | .object members =>
    match depth with
    | 0 => false
    | depth + 1 => lastMemberStops depth members
  | _ => false

def lastStops (depth : Nat) : List Json → Bool
  | [] => false
  | [item] => stopsAtEnd depth item
  | item :: items => item.fits depth && lastStops depth items

def lastMemberStops (depth : Nat) : List (Spelling × Json) → Bool
  | [] => false
  | [(key, value)] => key.text?.isSome && stopsAtEnd depth value
  | (key, value) :: members => key.text?.isSome && value.fits depth && lastMemberStops depth members

end

def audienceDepth : Nat := 126

/-- Whether a value names an audience: a string, or an array of strings. -/
def namesAudience : Json → Bool
  | .text _ => true
  | .array items => items.all fun item => item.string?.isSome
  | _ => false

def audiencePasses : Option Json → Bool
  | none => true
  | some value =>
    if value.fits audienceDepth then !namesAudience value else stopsAtEnd audienceDepth value

/-- A time before which a token would not be valid is not enforced, only readable. -/
def notBeforePasses : Option Json → Bool
  | some (.array items) => items.isEmpty
  | some (.object members) => members.isEmpty
  | some (.text (.hole readToEnd)) => readToEnd
  | some (.number n) => n.isFinite || !stopsShort n
  | _ => true

def passes (payload : Json) : Bool :=
  match payload with
  | .object members =>
    match Json.field? members "nbf", Json.field? members "aud" with
    | some notBefore, some audience => notBeforePasses notBefore && audiencePasses audience
    | _, _ => false
  | _ => false

end Gatehouse.Token.Registered
