import Gatehouse.Counter.Action
import Gatehouse.Counter.Key
import Gatehouse.Guard.Config

/-! The guard against guessed passwords. Failures of a username within a window lock it; failures of
an origin within a window block it, each block for twice as long as the one before. The two are
counted apart and share no key. -/
namespace Gatehouse.Guard

open Counter (Action Key)

structure OriginBlock where
  blocked : Bool
  remaining : Option Span
deriving DecidableEq

namespace OriginBlock

def none : OriginBlock := ⟨false, Option.none⟩

def retryAfter (b : OriginBlock) : Option Nat := b.remaining.map Span.secondsUp

end OriginBlock

structure Sanction where
  userLocked : Bool
  originBlockedFor : Option Span
deriving DecidableEq

def Sanction.none : Sanction := ⟨false, Option.none⟩

def isUserLocked (c : Config) (username : String) : Action Bool :=
  if c.enabled then Action.contains (Key.userLock username).text else return false

def originBlock (c : Config) (origin : String) : Action OriginBlock := do
  if c.enabled then
    let key := (Key.originBlock origin).text
    if ← Action.contains key then
      return ⟨true, ← Action.remaining key⟩
  return .none

def recordUserFailure (c : Config) (username : String) : Action Bool := do
  if c.enabled then
    let attempts := (Key.userAttempts username).text
    let count ← Action.increment attempts (some c.userWindow)
    if c.userThreshold.toNat ≤ count then
      Action.setFlag (Key.userLock username).text c.lockout
      let _ ← Action.delete attempts
      return true
  return false

def recordOriginFailure (c : Config) (origin : String) : Action (Option Span) := do
  if c.enabled then
    let attempts := (Key.originAttempts origin).text
    let count ← Action.increment attempts (some c.originWindow)
    if c.originThreshold.toNat ≤ count then
      let level ← Action.increment (Key.originBlockLevel origin).text none
      let duration := c.blockDuration level
      Action.setFlag (Key.originBlock origin).text duration
      let _ ← Action.delete attempts
      return some duration
  return none

/-- Counts a failed attempt on both sides; a failing store on one side does not keep the other from
being counted. -/
def recordFailure (c : Config) (username origin : String) : Action Sanction := do
  let user ← (recordUserFailure c username).attempt
  let origin ← (recordOriginFailure c origin).attempt
  return ⟨user.toOption.getD false, origin.toOption.getD none⟩

/-- Forgets the failures counted so far; locks and blocks stay. -/
def clearOnSuccess (c : Config) (username origin : String) : Action Unit := do
  if c.enabled then
    let _ ← Action.delete (Key.userAttempts username).text
    let _ ← Action.delete (Key.originAttempts origin).text
    if c.resetOnSuccess then
      let _ ← Action.delete (Key.originBlockLevel origin).text

def unlockUser (username : String) : Action Bool := do
  let locked ← Action.delete (Key.userLock username).text
  let _ ← Action.delete (Key.userAttempts username).text
  return locked

/-- Lifts a block and answers whether there was one; the level stays. -/
def unblockOrigin (origin : String) : Action Bool := do
  let blocked ← Action.delete (Key.originBlock origin).text
  let _ ← Action.delete (Key.originAttempts origin).text
  return blocked

end Gatehouse.Guard
