/-! Lengths of time. A span counts nanoseconds and stays below `2^64` seconds; sums and products
that leave that range are cut off at its end or refused, as the operation says. -/
namespace Gatehouse

def nanosPerSecond : Nat := 1000000000

def Span.limit : Nat := UInt64.size * nanosPerSecond

structure Span where
  nanos : Nat
  nanos_lt : nanos < Span.limit

instance : DecidableEq Span := fun a b =>
  decidable_of_iff (a.nanos = b.nanos)
    ⟨fun h => by cases a; cases b; cases h; rfl, fun h => congrArg Span.nanos h⟩

namespace Span

def max : Span := ⟨limit - 1, by decide⟩

def ofNanos (n : Nat) : Span :=
  if h : n < limit then ⟨n, h⟩ else max

def ofSeconds (n : Nat) : Span := ofNanos (n * nanosPerSecond)

def zero : Span := ⟨0, by decide⟩

def seconds (s : Span) : Nat := s.nanos / nanosPerSecond

def subsecond (s : Span) : Nat := s.nanos % nanosPerSecond

def secondsUp (s : Span) : Nat := s.seconds + if s.subsecond = 0 then 0 else 1

def times? (s : Span) (factor : Nat) : Option Span :=
  if h : s.nanos * factor < limit then some ⟨s.nanos * factor, h⟩ else none

def min (a b : Span) : Span := if a.nanos ≤ b.nanos then a else b

@[simp] theorem nanos_ofNanos {n : Nat} (h : n < limit) : (ofNanos n).nanos = n := by
  simp [ofNanos, h]

end Span

end Gatehouse
