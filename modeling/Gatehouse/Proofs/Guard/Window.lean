import Gatehouse.Proofs.Counter.Store

/-! Windows of failures and ends of sanctions, told without a store. A window opens with a failure
and counts those that come before its end; a slot that has been counted within a span shows just
that. -/
namespace Gatehouse.Guard

open Counter (Slot Store)

/-- The uptime at which something ends, or `none` for never. -/
abbrev Ending := Option Uptime

def Ending.isAhead (ending : Ending) (now : Uptime) : Bool :=
  match ending with
  | none => true
  | some instant => now < instant

/-- Failures counted since the first of them. -/
structure Window where
  start : Uptime
  count : Nat
deriving DecidableEq

namespace Window

/-- The window after a failure: a new one if there is none or the last one, `span` long, is over. -/
def next (span : Span) (now : Uptime) (window : Option Window) : Window :=
  match window with
  | none => ⟨now, 1⟩
  | some w =>
    if Ending.isAhead (deadlineAfter w.start span) now then ⟨w.start, w.count + 1⟩ else ⟨now, 1⟩

/-- The slot that shows a window. -/
def slot (span : Span) (w : Window) : Slot := ⟨w.count, deadlineAfter w.start span⟩

/-- A window that is open has counted something and has not reached its threshold. -/
def Below (threshold : Nat) (window : Option Window) : Prop :=
  ∀ w, window = some w → 1 ≤ w.count ∧ w.count < max threshold 1

variable {span : Span} {threshold : Nat} {window : Option Window} {now : Uptime}

theorem below_none : Below threshold none := fun _ h => by cases h

theorem one_le_count_next (h : Below threshold window) : 1 ≤ (next span now window).count := by
  unfold next
  split
  · exact Nat.le_refl 1
  · split
    · exact Nat.le_add_left 1 _
    · exact Nat.le_refl 1

/-- Counting in the slot of a window is counting in the window. -/
theorem counted_slot (h : Below threshold window) (hthreshold : threshold ≤ Counter.ceiling) :
    Store.counted now (some span) ((window.map (slot span)).filter (·.isLive now)) =
      slot span (next span now window) := by
  cases window with
  | none => rfl
  | some w =>
    obtain ⟨hpos, hlt⟩ := h w rfl
    have hlive : (slot span w).isLive now = Ending.isAhead (deadlineAfter w.start span) now := rfl
    simp only [Option.map_some, Option.filter_some, hlive, next]
    split
    · rw [Store.counted_some _ hpos]
      have hceiling : w.count + 1 ≤ Counter.ceiling := by
        have hone : 1 ≤ Counter.ceiling := by decide
        omega
      simp [slot, Nat.min_eq_left hceiling]
    · rfl

theorem threshold_le_ceiling (threshold : UInt32) : threshold.toNat ≤ Counter.ceiling :=
  Nat.le_trans (Nat.le_of_lt threshold.toNat_lt) (by decide)

/-- A key that shows a window shows the next one after a count, which answers how far that is. -/
theorem increment {threshold : UInt32} {s : Store} {key : String}
    (h : s.Shows now key (window.map (slot span))) (hbelow : Below threshold.toNat window) :
    (s.increment now key (some span)).1 = (next span now window).count ∧
      (s.increment now key (some span)).2.Shows now key
        (some (slot span (next span now window))) := by
  have hslot : Store.counted now (some span) (s.live? now key) =
      slot span (next span now window) := by
    rw [h.live?, counted_slot hbelow (threshold_le_ceiling threshold)]
  refine ⟨?_, hslot ▸ s.shows_increment (some span)⟩
  rw [s.increment_fst, hslot]
  rfl

/-- No threshold is reached by counting nothing, so one of zero is one of one. -/
theorem max_le_count_iff (span : Span) (now : Uptime) (h : Below threshold window) :
    max threshold 1 ≤ (next span now window).count ↔
      threshold ≤ (next span now window).count := by
  have hpos : 1 ≤ (next span now window).count := one_le_count_next h
  omega

theorem below_next (h : Below threshold window)
    (hnot : ¬max threshold 1 ≤ (next span now window).count) :
    Below threshold (some (next span now window)) := by
  rintro w ⟨⟩
  exact ⟨one_le_count_next h, Nat.lt_of_not_le hnot⟩

end Window

end Gatehouse.Guard
