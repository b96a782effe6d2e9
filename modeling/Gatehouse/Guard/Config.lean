import Gatehouse.Time.Span

/-! The settings of the guard against guessed passwords, with their defaults. -/
namespace Gatehouse.Guard

structure Config where
  enabled : Bool
  /-- How long failures of a username are counted, from the first one on. -/
  userWindow : Span
  userThreshold : UInt32
  lockout : Span
  originWindow : Span
  originThreshold : UInt32
  backoffBase : Span
  longestBlock : Option Span
  /-- Whether a success lets the origin's blocks start from the base again. -/
  resetOnSuccess : Bool
deriving DecidableEq

namespace Config

def default : Config where
  enabled := true
  userWindow := .ofSeconds 900
  userThreshold := 5
  lockout := .ofSeconds 900
  originWindow := .ofSeconds 900
  originThreshold := 10
  backoffBase := .ofSeconds 60
  longestBlock := some (.ofSeconds 86400)
  resetOnSuccess := false

def disabled : Config := { default with enabled := false }

def withUserLimits (c : Config) (threshold : UInt32) (window lockout : Span) : Config :=
  { c with userThreshold := threshold, userWindow := window, lockout := lockout }

def withOriginLimits (c : Config) (threshold : UInt32) (window base : Span) : Config :=
  { c with originThreshold := threshold, originWindow := window, backoffBase := base }

/-- The length of an origin's block at a level: the base doubled for each level after the first, cut
off at the longest span and at the longest block. -/
def blockDuration (c : Config) (level : Int) : Span :=
  let doublings := (level - 1).toNat
  let full := if doublings < 32 then (c.backoffBase.times? (1 <<< doublings)).getD .max else .max
  match c.longestBlock with
  | none => full
  | some longest => full.min longest

end Config

end Gatehouse.Guard
