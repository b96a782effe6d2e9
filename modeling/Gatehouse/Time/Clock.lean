import Gatehouse.Time.Timestamp

/-! The service's time. One clock gives the wall time and the uptime, which move together; a
deadline is an uptime, or never where the sum leaves the clock's range. Deadlines are exact, but
timers go off at whole milliseconds only. -/
namespace Gatehouse

/-- Nanoseconds since the clock started. -/
abbrev Uptime := Nat

structure Clock where
  /-- Wall time at uptime zero, in nanoseconds since 1970. -/
  start : Int
  uptime : Uptime
deriving DecidableEq

namespace Clock

def startingAt (t : Timestamp) : Clock := ⟨t.toNanos, 0⟩

def wallNanos (c : Clock) : Int := c.start + c.uptime

def wall (c : Clock) : Timestamp := Timestamp.ofNanos c.wallNanos

def second (c : Clock) : Int := c.wallNanos / nanosPerSecond

def advance (c : Clock) (d : Span) : Clock := { c with uptime := c.uptime + d.nanos }

end Clock

def Uptime.limit : Nat := 0x8000000000000000 * nanosPerSecond

def nanosPerMilli : Nat := 1000000

def Uptime.milli (now : Uptime) : Nat := now / nanosPerMilli

def Uptime.milliFrom (instant : Uptime) : Nat := (instant + (nanosPerMilli - 1)) / nanosPerMilli

/-- The uptime at which a span from now ends, or `none` for never. -/
def deadlineAfter (now : Uptime) (ttl : Span) : Option Uptime :=
  if now + ttl.nanos < Uptime.limit then some (now + ttl.nanos) else none

/-- The uptime at which a timer set now is due. One that the clock cannot express is due in thirty
years. -/
def timerAfter (now : Uptime) (d : Span) : Uptime :=
  (deadlineAfter now d).getD (now + 30 * 365 * 86400 * nanosPerSecond)

end Gatehouse
