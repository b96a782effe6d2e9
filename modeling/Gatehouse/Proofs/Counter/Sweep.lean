import Gatehouse.Proofs.Counter.Plain

/-! When a sweep falls due, and what it leaves. A clock that moves on by the interval, counted in
whole milliseconds, cannot miss a round; a round takes away all that has expired and nothing else.
-/
namespace Gatehouse.Counter

variable {now before : Uptime} {key : String}

namespace Store

/-- Nothing is stored past its deadline. -/
def AllLive (s : Store) (now : Uptime) : Prop :=
  ∀ (key : String) (slot : Slot), s.slots[key]? = some slot → slot.isLive now = true

/-- The number of entries that a reader can see. -/
def living (s : Store) (now : Uptime) : Nat := s.slots.toList.countP (·.2.isLive now)

theorem AllLive.size_eq {s : Store} (h : s.AllLive now) : s.size = s.living now := by
  have hall : ∀ entry ∈ s.slots.toList, entry.2.isLive now = true := by
    intro entry hentry
    exact h entry.1 entry.2 (Std.ExtTreeMap.mem_toList_iff_getElem?_eq_some.mp hentry)
  rw [living, List.countP_eq_length.mpr hall, Std.ExtTreeMap.length_toList]
  rfl

theorem allLive_purge (s : Store) (now : Uptime) : (s.purge now).2.AllLive now := by
  intro key slot hslot
  rw [getElem?_purge, Option.filter_eq_some_iff] at hslot
  exact hslot.2

theorem getElem?_purge_of_isLive {s : Store} {slot : Slot} (hslot : s.slots[key]? = some slot)
    (hlive : slot.isLive now = true) : (s.purge now).2.slots[key]? = some slot := by
  rw [getElem?_purge, hslot, Option.filter_some, if_pos hlive]

end Store

/-- A span in nanoseconds, rounded up to whole milliseconds. -/
def wholeMillis (span : Span) : Nat := Uptime.milliFrom span.nanos * nanosPerMilli

theorem le_wholeMillis (span : Span) : span.nanos ≤ wholeMillis span := by
  unfold wholeMillis Uptime.milliFrom nanosPerMilli
  omega

/-- A span of whole milliseconds needs no rounding. -/
theorem wholeMillis_of_dvd {span : Span} (h : nanosPerMilli ∣ span.nanos) :
    wholeMillis span = span.nanos := by
  unfold wholeMillis Uptime.milliFrom
  unfold nanosPerMilli at *
  omega

namespace Sweep

variable {s : Sweep}

theorem period_eq (h : s.start + s.interval.nanos < Uptime.limit) :
    timerAfter s.start s.interval - s.start = s.interval.nanos := by
  rw [timerAfter, deadlineAfter, if_pos h, Option.getD_some, Nat.add_sub_cancel_left]

/-- What timers can see moves on by whole milliseconds. -/
theorem milli_add (now : Nat) {d : Nat} (interval : Span) (h : wholeMillis interval ≤ d) :
    Uptime.milli now * nanosPerMilli + wholeMillis interval ≤
      Uptime.milli (now + d) * nanosPerMilli := by
  have hmillis : Uptime.milli now + Uptime.milliFrom interval.nanos ≤ Uptime.milli (now + d) := by
    unfold wholeMillis at h
    unfold Uptime.milli
    unfold nanosPerMilli at *
    generalize Uptime.milliFrom interval.nanos = millis at *
    dsimp only [Uptime]
    omega
  unfold wholeMillis
  rw [← Nat.add_mul]
  exact Nat.mul_le_mul_right _ hmillis

/-- The clock cannot move on by the interval, in whole milliseconds, without a round. -/
theorem rounds_lt {before d : Nat} (hpositive : s.interval.nanos ≠ 0) (hstart : s.start ≤ before)
    (hlong : wholeMillis s.interval ≤ d) (hlimit : before + d < Uptime.limit) :
    s.rounds before < s.rounds (before + d) := by
  dsimp only [Uptime] at hstart
  have hinterval := le_wholeMillis s.interval
  have hperiod := period_eq (s := s) (by dsimp only [Uptime]; omega)
  have hmilli : nanosPerMilli ≤ wholeMillis s.interval := by
    unfold wholeMillis Uptime.milliFrom nanosPerMilli
    dsimp only [Uptime]
    omega
  have hseen := milli_add before s.interval hlong
  have hnear : before < Uptime.milli before * nanosPerMilli + nanosPerMilli := by
    unfold Uptime.milli nanosPerMilli
    dsimp only [Uptime]
    omega
  unfold rounds
  simp only [hperiod, hpositive, false_or]
  generalize Uptime.milli before * nanosPerMilli = seen at *
  generalize Uptime.milli (before + d) * nanosPerMilli = seenLater at *
  dsimp only [Uptime]
  rw [if_neg (by omega : ¬ seenLater < s.start)]
  split
  · exact Nat.succ_pos _
  · have hround : (seen - s.start) / s.interval.nanos + 1 ≤
        (seenLater - s.start) / s.interval.nanos := by
      rw [← Nat.add_div_right _ (Nat.pos_of_ne_zero hpositive)]
      exact Nat.div_le_div_right (by omega)
    omega

/-- Without an interval there is no round. -/
theorem pass_of_zero (hzero : s.interval.nanos = 0) (store : Store) :
    s.pass before now store = store := by
  have hrounds (instant : Uptime) : s.rounds instant = 0 := by
    unfold rounds
    simp only [hzero, true_or, if_true]
  unfold pass
  rw [hrounds, hrounds, if_neg (Nat.lt_irrefl 0)]

theorem pass_eq_purge (h : s.rounds before < s.rounds now) (store : Store) :
    s.pass before now store = (store.purge now).2 := if_pos h

/-- A sweep takes away no entry that is live. -/
theorem getElem?_pass {store : Store} {slot : Slot} (hslot : store.slots[key]? = some slot)
    (hlive : slot.isLive now = true) : (s.pass before now store).slots[key]? = some slot := by
  unfold pass
  split
  · exact Store.getElem?_purge_of_isLive hslot hlive
  · exact hslot

end Sweep

end Gatehouse.Counter
