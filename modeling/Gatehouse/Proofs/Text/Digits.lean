import Gatehouse.Proofs.Json.Literal
import Gatehouse.Text.Blank
import Mathlib.Algebra.Group.Nat.Defs

/-! Numbers in decimal digits, as they are written and read back. -/
namespace Gatehouse.Text

theorem isBlank_of_isDigit {c : Char} (h : c.isDigit = true) : isBlank c = false := by
  simp only [Char.isDigit, Bool.and_eq_true, decide_eq_true_eq, ge_iff_le, UInt32.le_iff_toNat_le]
    at h
  have hc : 48 ≤ c.toNat ∧ c.toNat ≤ 57 := h
  simp [isBlank]
  omega

theorem digits?_toDigits (n : Nat) : digits? (Nat.toDigits 10 n) = some n := by
  have hdigits : (Nat.toDigits 10 n).all Char.isDigit = true :=
    List.all_eq_true.mpr fun c hc => Json.isDigit_toDigits hc
  unfold digits?
  rw [if_pos ⟨Nat.toDigits_ne_nil, hdigits⟩, Json.digitsValue_toDigits]

/-! ## Numbers filled with zeros -/

theorem isDigit_padded {width n : Nat} {c : Char} (h : c ∈ padded width n) : c.isDigit = true := by
  rcases List.mem_append.mp h with hzero | hdigit
  · rw [List.eq_of_mem_replicate hzero]
    rfl
  · exact Json.isDigit_toDigits hdigit

theorem padded_ne_nil (width n : Nat) : padded width n ≠ [] := by
  simp [padded, Nat.toDigits_ne_nil]

theorem digitsValue_replicate_append (count : Nat) (cs : List Char) :
    digitsValue (List.replicate count '0' ++ cs) = digitsValue cs := by
  induction count with
  | zero => rfl
  | succ count ih => exact ih

theorem digitsValue_padded (width n : Nat) : digitsValue (padded width n) = n := by
  unfold padded
  rw [digitsValue_replicate_append, Json.digitsValue_toDigits]

theorem length_padded {width n : Nat} (hwidth : 0 < width) (h : n < 10 ^ width) :
    (padded width n).length = width := by
  have hdigits := (Nat.length_toDigits_le_iff (by decide : 1 < 10) hwidth).mpr h
  simp only [padded, List.length_append, List.length_replicate]
  omega

end Gatehouse.Text
