import Gatehouse.Counter.Store

/-! The regular sweep of a store. It purges when it starts and at each later multiple of its
interval; a sweep without an interval never purges. -/
namespace Gatehouse.Counter

structure Sweep where
  interval : Span
  start : Uptime

namespace Sweep

/-- The number of times a sweep is due up to an uptime, at which its timer can see the last whole
millisecond. -/
def rounds (s : Sweep) (now : Uptime) : Nat :=
  let seen := now.milli * nanosPerMilli
  if s.interval.nanos = 0 ∨ seen < s.start then 0
  else (seen - s.start) / (timerAfter s.start s.interval - s.start) + 1

def pass (s : Sweep) (before now : Uptime) (store : Store) : Store :=
  if s.rounds before < s.rounds now then (store.purge now).2 else store

/-- Starts a sweep; its first round is due at once. -/
def begin (interval : Span) (now : Uptime) (store : Store) : Sweep × Store :=
  let s : Sweep := ⟨interval, now⟩
  (s, if 0 < s.rounds now then (store.purge now).2 else store)

end Sweep

end Gatehouse.Counter
