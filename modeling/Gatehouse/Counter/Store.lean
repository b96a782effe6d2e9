import Gatehouse.Time.Clock
import Std.Data.ExtTreeMap

/-! Counters that expire. A slot past its deadline counts as absent, whether or not it is still
stored: reading it removes it, `purge` removes all such slots, and neither changes a later answer.
-/
namespace Gatehouse.Counter

/-- The value at which a counter stops growing. -/
def ceiling : Nat := 0x7fffffffffffffff

structure Slot where
  value : Nat
  /-- The uptime from which the slot counts as absent, or `none` for never. -/
  deadline : Option Uptime
deriving DecidableEq

def Slot.isLive (s : Slot) (now : Uptime) : Bool :=
  match s.deadline with
  | none => true
  | some deadline => now < deadline

def Slot.remaining (s : Slot) (now : Uptime) : Option Span :=
  s.deadline.map fun deadline => Span.ofNanos (deadline - now)

structure Store where
  slots : Std.ExtTreeMap String Slot

namespace Store

def empty : Store := ⟨∅⟩

/-- The number of stored slots, expired ones included. -/
def size (s : Store) : Nat := s.slots.size

/-- The slot of a key as a reader sees it. -/
def live? (s : Store) (now : Uptime) (key : String) : Option Slot :=
  s.slots[key]?.filter (·.isLive now)

def settle (s : Store) (now : Uptime) (key : String) : Store :=
  match s.live? now key with
  | some _ => s
  | none => ⟨s.slots.erase key⟩

def freshSlot (now : Uptime) (ttl : Option Span) : Slot :=
  ⟨1, ttl.bind (deadlineAfter now)⟩

/-- The slot after one more count. What is absent starts from zero, and a counter at zero takes its
deadline from the count. -/
def counted (now : Uptime) (ttl : Option Span) (slot : Option Slot) : Slot :=
  let slot := slot.getD ⟨0, none⟩
  { value := min (slot.value + 1) ceiling
    deadline := if slot.value = 0 then ttl.bind (deadlineAfter now) else slot.deadline }

def increment (s : Store) (now : Uptime) (key : String) (ttl : Option Span) : Nat × Store :=
  let slot := counted now ttl (s.live? now key)
  (slot.value, ⟨s.slots.insert key slot⟩)

def setFlag (s : Store) (now : Uptime) (key : String) (ttl : Span) : Store :=
  ⟨s.slots.insert key (freshSlot now (some ttl))⟩

def get (s : Store) (now : Uptime) (key : String) : Option Nat × Store :=
  ((s.live? now key).map Slot.value, s.settle now key)

def contains (s : Store) (now : Uptime) (key : String) : Bool × Store :=
  ((s.live? now key).isSome, s.settle now key)

def remaining (s : Store) (now : Uptime) (key : String) : Option Span × Store :=
  ((s.live? now key).bind (·.remaining now), s.settle now key)

/-- Removes a key and answers whether a reader could still see it. -/
def delete (s : Store) (now : Uptime) (key : String) : Bool × Store :=
  ((s.live? now key).isSome, ⟨s.slots.erase key⟩)

def purge (s : Store) (now : Uptime) : Nat × Store :=
  let kept := s.slots.filter fun _ slot => slot.isLive now
  (s.slots.size - kept.size, ⟨kept⟩)

end Store

end Gatehouse.Counter
