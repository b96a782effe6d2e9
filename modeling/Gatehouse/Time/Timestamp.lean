import Gatehouse.Text.Blank
import Gatehouse.Text.Digits
import Gatehouse.Time.Calendar
import Gatehouse.Time.Span

/-! Instants of UTC and their RFC 3339 text. Printing uses the fewest of 0, 3, 6 or 9 fraction
digits that are exact; reading takes any offset and any number of fraction digits. -/
namespace Gatehouse

/-- Whole seconds since 1970 and nanoseconds within the second. They may run on from `10^9`, as they
do after second 59 during a leap second, which has no number of its own. -/
structure Timestamp where
  seconds : Int
  nanos : Nat
deriving DecidableEq

namespace Timestamp

def firstSecond : Int := (Date.toDays ⟨-262143, 1, 1⟩) * 86400

def lastSecond : Int := (Date.toDays ⟨262142, 12, 31⟩) * 86400 + 86399

example : firstSecond = -8334601228800 ∧ lastSecond = 8210266876799 := by decide

def inRange (seconds : Int) : Bool := firstSecond ≤ seconds && seconds ≤ lastSecond

def earliest : Timestamp := ⟨firstSecond, 0⟩

def ofSeconds? (seconds : Int) : Option Timestamp :=
  if inRange seconds then some ⟨seconds, 0⟩ else none

def ofNanos (nanos : Int) : Timestamp :=
  ⟨nanos / nanosPerSecond, (nanos % nanosPerSecond).toNat⟩

def toNanos (t : Timestamp) : Int := t.seconds * nanosPerSecond + t.nanos

/-- A moment shifted by signed nanoseconds, if the supported years have it. A shift that stays in a
leap second moves its nanoseconds only, and one that leaves it forwards does not count it. -/
def shift? (t : Timestamp) (nanos : Int) : Option Timestamp :=
  let moved :=
    if t.nanos < nanosPerSecond ∨ nanos + nanosPerSecond ≤ 0 then ofNanos (t.toNanos + nanos)
    else if t.nanos + nanos < 2 * nanosPerSecond then ⟨t.seconds, (t.nanos + nanos).toNat⟩
    else ofNanos (t.toNanos + nanos - nanosPerSecond)
  if inRange moved.seconds then some moved else none

theorem shift?_of_nanos_lt {t : Timestamp} (h : t.nanos < nanosPerSecond) (nanos : Int) :
    t.shift? nanos =
      if inRange (ofNanos (t.toNanos + nanos)).seconds then some (ofNanos (t.toNanos + nanos))
      else none := by
  simp only [shift?, h, true_or, if_true]

example : shift? ⟨1483228799, 1500000000⟩ 1000000000 = some ⟨1483228800, 500000000⟩ := by decide

/-! ## Printing -/

/-- Four digits from year 0 to year 9999, else a sign and at least four digits. -/
def yearText (year : Int) : List Char :=
  if 0 ≤ year ∧ year ≤ 9999 then Text.padded 4 year.toNat
  else (if year < 0 then '-' else '+') :: Text.padded 4 year.natAbs

def fractionText (nanos : Nat) : List Char :=
  if nanos = 0 then []
  else if nanos % 1000000 = 0 then '.' :: Text.padded 3 (nanos / 1000000)
  else if nanos % 1000 = 0 then '.' :: Text.padded 6 (nanos / 1000)
  else '.' :: Text.padded 9 nanos

def render (t : Timestamp) : List Char :=
  let date := Date.ofDays (t.seconds / 86400)
  let second := (t.seconds % 86400).toNat
  yearText date.year ++ '-' :: Text.padded 2 date.month ++ '-' :: Text.padded 2 date.day ++
    'T' :: Text.padded 2 (second / 3600) ++ ':' :: Text.padded 2 (second / 60 % 60) ++
    ':' :: Text.padded 2 (second % 60 + t.nanos / nanosPerSecond) ++
    fractionText (t.nanos % nanosPerSecond) ++ ['Z']

def text (t : Timestamp) : String := String.ofList t.render

/-! ## Reading -/

def takeNumber (width : Nat) (cs : List Char) : Option (Nat × List Char) :=
  let digits := (cs.take width).takeWhile Char.isDigit
  if digits = [] then none else some (Text.digitsValue digits, cs.drop digits.length)

def takeField (width : Nat) (cs : List Char) : Option (Nat × List Char) :=
  takeNumber width (Text.trimLeft cs)

def takeMark (mark : Char) (cs : List Char) : Option (List Char) :=
  match Text.trimLeft cs with
  | c :: rest => if c = mark then some rest else none
  | [] => none

/-- A year has up to four digits, or a sign and any number of them. -/
def takeYear (cs : List Char) : Option (Int × List Char) :=
  match Text.trimLeft cs with
  | '-' :: rest => (takeNumber rest.length rest).map fun (n, rest) => (-(n : Int), rest)
  | '+' :: rest => (takeNumber rest.length rest).map fun (n, rest) => ((n : Int), rest)
  | rest => (takeNumber 4 rest).map fun (n, rest) => ((n : Int), rest)

def takeSeparator : List Char → Option (List Char)
  | 'T' :: rest | 't' :: rest | ' ' :: rest => some rest
  | _ => none

/-- A fraction of a second in nanoseconds; digits after the ninth are dropped. -/
def takeFraction : List Char → Option (Nat × List Char)
  | '.' :: rest => do
    let (n, rest') ← takeNumber 9 rest
    return (n * Nat.pow 10 (9 - (rest.length - rest'.length)), rest'.dropWhile Char.isDigit)
  | cs => some (0, cs)

/-- An offset in seconds east of UTC: `Z`, `UTC`, or a sign, two digits of hours and two of minutes
with any colons and blanks between. -/
def takeOffset (cs : List Char) : Option (Int × List Char) :=
  let signed (sign : Int) (cs : List Char) : Option (Int × List Char) :=
    match cs with
    | h1 :: h2 :: rest =>
      match rest.dropWhile fun c => c == ':' || Text.isBlank c with
      | m1 :: m2 :: rest => do
        let hours ← Text.digits? [h1, h2]
        let minutes ← Text.digits? [m1, m2]
        if minutes < 60 then
          return (sign * (hours * 3600 + minutes * 60 : Nat), rest)
        none
      | _ => none
    | _ => none
  match Text.trimLeft cs with
  | 'Z' :: rest | 'z' :: rest => some (0, rest)
  | '+' :: rest => signed 1 rest
  | '-' :: rest | '\u2212' :: rest => signed (-1) rest
  | a :: b :: c :: rest =>
    if [a, b, c].map Char.toUpper = ['U', 'T', 'C'] then some (0, rest) else none
  | _ => none

def parse? (cs : List Char) : Option Timestamp := do
  let (year, cs) ← takeYear cs
  let (month, cs) ← takeField 2 (← takeMark '-' cs)
  let (day, cs) ← takeField 2 (← takeMark '-' cs)
  let (hour, cs) ← takeField 2 (← takeSeparator cs)
  let (minute, cs) ← takeField 2 (← takeMark ':' cs)
  let (second, cs) ← takeField 2 (← takeMark ':' cs)
  let (nanos, cs) ← takeFraction cs
  let (offset, cs) ← takeOffset cs
  guard (Text.trimLeft cs).isEmpty
  let date : Date := ⟨year, month, day⟩
  guard (-262143 ≤ year ∧ year ≤ 262142 ∧ date.isValid)
  guard (hour < 24 ∧ minute < 60 ∧ second ≤ 60 ∧ offset.natAbs < 86400)
  let leap := second = 60
  let clock := hour * 3600 + minute * 60 + if leap then 59 else second
  let seconds := date.toDays * 86400 + clock - offset
  guard (inRange seconds)
  return ⟨seconds, nanos + if leap then nanosPerSecond else 0⟩

end Timestamp

end Gatehouse
