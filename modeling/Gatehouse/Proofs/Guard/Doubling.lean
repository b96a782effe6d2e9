import Gatehouse.Proofs.Guard.Backoff
import Mathlib.Algebra.Group.Nat.Defs

/-! The law of doubling: a block lasts for the base, doubled for each level after the first. Lengths
follow the law through level 32. From level 33 on they are as long as a block may be, which is
lawful only if doubling has come that far by then. -/
namespace Gatehouse

namespace Span

theorem nanos_ofNanos_eq_min (n : Nat) : (ofNanos n).nanos = Min.min n max.nanos := by
  have hmax : max.nanos = limit - 1 := rfl
  unfold ofNanos
  split
  · simp only []
    omega
  · omega

end Span

namespace Guard.Config

variable (c : Config) (level : Int)

def lawfulNanos : Nat := c.backoffBase.nanos * 2 ^ (max level 1 - 1).toNat

/-- The length of a block by the law, cut off at the longest span and at the longest block. -/
def lawfulDuration : Span := c.capped (.ofNanos (c.lawfulNanos level))

variable {c level}

/-- Up to 31 doublings are exact, or the longest span where that is exceeded. -/
theorem doubled_of_lt {n : Nat} (h : n < 32) :
    c.doubled n = .ofNanos (c.backoffBase.nanos * 2 ^ n) := by
  unfold doubled Span.times? Span.ofNanos
  rw [if_pos h, Nat.one_shiftLeft]
  split <;> rfl

theorem blockDuration_of_le_32 (h : level ≤ 32) :
    c.blockDuration level = c.lawfulDuration level := by
  have hfew : (level - 1).toNat < 32 := by omega
  have hdoublings : (max level 1 - 1).toNat = (level - 1).toNat := by omega
  rw [blockDuration_eq, doubled_of_lt hfew, lawfulDuration, lawfulNanos, hdoublings]

theorem capped_max : c.capped .max = c.longestBlock.getD .max := by
  unfold capped
  cases c.longestBlock with
  | none => rfl
  | some longest =>
    have hle := longest.nanos_le_max
    rw [Option.getD_some, ← Span.nanos_inj, Span.nanos_min]
    omega

theorem blockDuration_of_32_lt (h : 32 < level) :
    c.blockDuration level = c.longestBlock.getD .max := by
  have hmany : ¬(level - 1).toNat < 32 := by omega
  have hdoubled : c.doubled (level - 1).toNat = .max := if_neg hmany
  rw [blockDuration_eq, hdoubled, capped_max]

theorem lawfulDuration_eq_longest_iff :
    c.lawfulDuration level = c.longestBlock.getD .max ↔
      Span.max.nanos ≤ c.lawfulNanos level ∨
        ∃ longest, c.longestBlock = some longest ∧ longest.nanos ≤ c.lawfulNanos level := by
  rw [← Span.nanos_inj]
  unfold lawfulDuration capped
  cases c.longestBlock with
  | none =>
    simp only [Option.getD_none, Span.nanos_ofNanos_eq_min, reduceCtorEq, false_and, exists_false,
      or_false]
    omega
  | some longest =>
    have hle := longest.nanos_le_max
    simp only [Option.getD_some, Span.nanos_min, Span.nanos_ofNanos_eq_min, Option.some.injEq,
      exists_eq_left']
    omega

/-- How long blocks are, and how far the law holds. Beyond level 32 a block is as long as a block
may be, which is lawful if the law has come to the longest span or to the longest block. -/
theorem blockDuration_by_level (c : Config) (level : Int) :
    c.blockDuration level =
        (if level ≤ 32 then c.lawfulDuration level else c.longestBlock.getD .max) ∧
      (c.blockDuration level = c.lawfulDuration level ↔
        level ≤ 32 ∨ Span.max.nanos ≤ c.lawfulNanos level ∨
          ∃ longest, c.longestBlock = some longest ∧ longest.nanos ≤ c.lawfulNanos level) := by
  by_cases h : level ≤ 32
  · simp [h, blockDuration_of_le_32 h]
  · rw [blockDuration_of_32_lt (Int.not_le.mp h), if_neg h, eq_comm (b := c.lawfulDuration level),
      lawfulDuration_eq_longest_iff]
    simp [h]

/-- From a base of one nanosecond, a block of level 33 would last for four seconds by the law, and
lasts for a day. -/
theorem blockDuration_ne_lawful :
    let c := Config.default.withOriginLimits 10 (.ofSeconds 900) (.ofNanos 1)
    c.blockDuration 33 = .ofSeconds 86400 ∧ c.lawfulDuration 33 = .ofNanos 4294967296 ∧
      c.blockDuration 33 ≠ c.lawfulDuration 33 := by
  decide

end Guard.Config

end Gatehouse
