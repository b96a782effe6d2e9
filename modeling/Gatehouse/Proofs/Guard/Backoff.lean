import Gatehouse.Counter.Store
import Gatehouse.Guard.Config

/-! The lengths of blocks by level. They never shrink from one level to the next, and from level 33
on they stay the same, so that a level which cannot grow any more goes unnoticed. -/
namespace Gatehouse

namespace Span

theorem nanos_inj {a b : Span} : a.nanos = b.nanos ↔ a = b := by
  cases a
  cases b
  simp

theorem nanos_le_max (s : Span) : s.nanos ≤ max.nanos := Nat.le_pred_of_lt s.nanos_lt

theorem nanos_min (a b : Span) : (a.min b).nanos = Min.min a.nanos b.nanos := by
  unfold Span.min
  split <;> omega

end Span

namespace Guard.Config

variable (c : Config)

/-- The base doubled that many times, or the longest span where that is none. -/
def doubled (doublings : Nat) : Span :=
  if doublings < 32 then (c.backoffBase.times? (1 <<< doublings)).getD .max else .max

/-- A length cut off at the longest block. -/
def capped (d : Span) : Span :=
  match c.longestBlock with
  | none => d
  | some longest => d.min longest

theorem blockDuration_eq (level : Int) :
    c.blockDuration level = c.capped (c.doubled (level - 1).toNat) := rfl

theorem doubled_mono {m n : Nat} (h : m ≤ n) : (c.doubled m).nanos ≤ (c.doubled n).nanos := by
  by_cases hn : n < 32
  · have hm : m < 32 := Nat.lt_of_le_of_lt h hn
    have hfactor : 1 <<< m ≤ 1 <<< n := by
      simp only [Nat.one_shiftLeft]
      exact Nat.pow_le_pow_right (by decide) h
    have hle : c.backoffBase.nanos * (1 <<< m) ≤ c.backoffBase.nanos * (1 <<< n) :=
      Nat.mul_le_mul_left _ hfactor
    unfold doubled Span.times?
    rw [if_pos hm, if_pos hn]
    by_cases hlimit : c.backoffBase.nanos * (1 <<< n) < Span.limit
    · rw [dif_pos (Nat.lt_of_le_of_lt hle hlimit), dif_pos hlimit]
      exact hle
    · rw [dif_neg hlimit]
      exact Span.nanos_le_max _
  · unfold doubled
    rw [if_neg hn]
    exact Span.nanos_le_max _

theorem capped_mono {d longer : Span} (h : d.nanos ≤ longer.nanos) :
    (c.capped d).nanos ≤ (c.capped longer).nanos := by
  unfold capped
  cases c.longestBlock with
  | none => exact h
  | some longest =>
    simp only [Span.nanos_min]
    omega

theorem blockDuration_mono {m n : Int} (h : m ≤ n) :
    (c.blockDuration m).nanos ≤ (c.blockDuration n).nanos := by
  rw [blockDuration_eq, blockDuration_eq]
  apply capped_mono
  apply doubled_mono
  exact Int.toNat_le_toNat (Int.sub_le_sub_right h 1)

/-- From level 33 on all blocks are of one length. -/
theorem blockDuration_of_le {m n : Int} (hm : 33 ≤ m) (hn : 33 ≤ n) :
    c.blockDuration m = c.blockDuration n := by
  have hm' : ¬(m - 1).toNat < 32 := by omega
  have hn' : ¬(n - 1).toNat < 32 := by omega
  simp only [blockDuration_eq, doubled, if_neg hm', if_neg hn']

/-- Whether the level is kept from growing is not seen in the length of a block. -/
theorem blockDuration_min (m k : Nat) :
    c.blockDuration ((min m Counter.ceiling + k : Nat) : Int) =
      c.blockDuration ((m + k : Nat) : Int) := by
  have hceiling : 33 ≤ Counter.ceiling := by decide
  rcases Nat.le_total m Counter.ceiling with h | h
  · rw [Nat.min_eq_left h]
  · rw [Nat.min_eq_right h]
    exact c.blockDuration_of_le (by omega) (by omega)

end Guard.Config

end Gatehouse
