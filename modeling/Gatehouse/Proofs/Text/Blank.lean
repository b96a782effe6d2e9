import Gatehouse.Text.Blank

/-! Trimming takes white space off a text and nothing else, and leaves none at either end. Only one
text can be left in this way, so white space put around a text is lost when it is trimmed. -/
namespace Gatehouse.Text

/-- All characters with the Unicode property `White_Space`. -/
def whiteSpace : List Char :=
  ['\t', '\n', '\x0b', '\x0c', '\r', ' ', '\u0085', '\u00a0', '\u1680', '\u2000', '\u2001',
    '\u2002', '\u2003', '\u2004', '\u2005', '\u2006', '\u2007', '\u2008', '\u2009', '\u200a',
    '\u2028', '\u2029', '\u202f', '\u205f', '\u3000']

/-- A text of white space and nothing else. -/
def AllBlank (s : String) : Prop := ∀ c ∈ s.toList, c ∈ whiteSpace

instance (s : String) : Decidable (AllBlank s) :=
  decidable_of_iff (s.toList.all whiteSpace.contains = true) (by
    simp only [AllBlank, List.all_eq_true, List.contains_iff_mem])

/-- What is left of a text without the white space at its ends. -/
structure TrimsTo (text core : String) : Prop where
  enclosed : ∃ front back, AllBlank front ∧ AllBlank back ∧ text = front ++ core ++ back
  first : ∀ c ∈ core.toList.head?, c ∉ whiteSpace
  last : ∀ c ∈ core.toList.getLast?, c ∉ whiteSpace

variable {text core : String} {c : Char} {cs : List Char}

theorem isBlank_iff : isBlank c = true ↔ c ∈ whiteSpace := by
  simp only [isBlank, whiteSpace, Bool.or_eq_true, Bool.and_eq_true, decide_eq_true_eq,
    List.contains_iff_mem, List.mem_cons, List.not_mem_nil, or_false, ← Char.toNat_inj,
    Char.reduceToNat]
  omega

theorem isBlank_eq_false_iff : isBlank c = false ↔ c ∉ whiteSpace := by
  rw [← isBlank_iff, Bool.not_eq_true]

theorem allBlank_append_iff {front back : String} :
    AllBlank (front ++ back) ↔ AllBlank front ∧ AllBlank back := by
  simp only [AllBlank, String.toList_append, List.mem_append, or_imp, forall_and]

/-! ## One end of a list of characters -/

theorem not_isBlank_of_head? (h : c ∈ (trimLeft cs).head?) : isBlank c = false := by
  have hnot := List.head?_dropWhile_not isBlank cs
  rw [← trimLeft, Option.mem_def.mp h] at hnot
  exact hnot

theorem exists_trimLeft (cs : List Char) :
    ∃ front, (∀ c ∈ front, isBlank c = true) ∧ cs = front ++ trimLeft cs := by
  refine ⟨cs.takeWhile isBlank, ?_, List.takeWhile_append_dropWhile.symm⟩
  exact List.all_eq_true.mp List.all_takeWhile

theorem trimRight_eq_reverse (cs : List Char) : trimRight cs = (trimLeft cs.reverse).reverse := rfl

theorem trimRight_eq_self (h : ∀ c ∈ cs.getLast?, isBlank c = false) : trimRight cs = cs := by
  rw [← List.head?_reverse] at h
  rw [trimRight_eq_reverse]
  cases hcs : cs.reverse with
  | nil => exact (List.reverse_eq_nil_iff.mp hcs).symm
  | cons c rest =>
    have hc : isBlank c = false := h c (by rw [hcs]; rfl)
    rw [trimLeft_eq_self hc, ← hcs, List.reverse_reverse]

theorem trimRight_append {blanks : List Char} (h : ∀ c ∈ blanks, isBlank c = true) :
    trimRight (cs ++ blanks) = trimRight cs := by
  have hreverse : ∀ c ∈ blanks.reverse, isBlank c = true := by simpa using h
  simp only [trimRight_eq_reverse, List.reverse_append, trimLeft_append hreverse]

theorem exists_trimRight (cs : List Char) :
    ∃ back, (∀ c ∈ back, isBlank c = true) ∧ cs = trimRight cs ++ back := by
  obtain ⟨back, hback, hcs⟩ := exists_trimLeft cs.reverse
  refine ⟨back.reverse, by simpa using hback, ?_⟩
  rw [trimRight_eq_reverse, ← List.reverse_append, ← hcs, List.reverse_reverse]

/-! ## Both ends of a text -/

theorem trimsTo_trim (text : String) : TrimsTo text (trim text) := by
  obtain ⟨front, hfront, htext⟩ := exists_trimLeft text.toList
  obtain ⟨back, hback, hrest⟩ := exists_trimRight (trimLeft text.toList)
  have hcore : (trim text).toList = trimRight (trimLeft text.toList) := String.toList_ofList
  constructor
  · refine ⟨.ofList front, .ofList back, by simpa [AllBlank, ← isBlank_iff] using hfront,
      by simpa [AllBlank, ← isBlank_iff] using hback, ?_⟩
    rw [trim, ← String.ofList_append, ← String.ofList_append, List.append_assoc, ← hrest, ← htext,
      String.ofList_toList]
  · intro c hc
    rw [hcore] at hc
    -- what is trimmed off the right end leaves the first character where it is
    have hfirst : c ∈ (trimLeft text.toList).head? := by
      rw [hrest, List.head?_append, Option.mem_def.mp hc]
      rfl
    exact isBlank_eq_false_iff.mp (not_isBlank_of_head? hfirst)
  · intro c hc
    rw [hcore, trimRight_eq_reverse, List.getLast?_reverse] at hc
    exact isBlank_eq_false_iff.mp (not_isBlank_of_head? hc)

theorem TrimsTo.eq_trim (h : TrimsTo text core) : core = trim text := by
  obtain ⟨⟨front, back, hfront, hback, rfl⟩, hfirst, hlast⟩ := h
  simp only [AllBlank, ← isBlank_iff] at hfront hback
  simp only [← isBlank_eq_false_iff] at hfirst hlast
  rw [trim, String.append_assoc, String.toList_append, String.toList_append, trimLeft_append hfront]
  cases hcore : core.toList with
  | nil =>
    have hnone : trimLeft back.toList = [] := by
      simpa [trimLeft] using trimLeft_append hback []
    rw [List.nil_append, hnone]
    exact String.toList_inj.mp hcore
  | cons c rest =>
    rw [hcore] at hfirst hlast
    rw [List.cons_append, trimLeft_eq_self (hfirst c rfl), ← List.cons_append,
      trimRight_append hback, trimRight_eq_self hlast, ← hcore, String.ofList_toList]

/-- A text without white space at its ends is left as it is. -/
theorem trim_eq_self (hfirst : ∀ c ∈ text.toList.head?, c ∉ whiteSpace)
    (hlast : ∀ c ∈ text.toList.getLast?, c ∉ whiteSpace) : trim text = text := by
  have hself : TrimsTo text text :=
    ⟨⟨"", "", by simp [AllBlank], by simp [AllBlank], by simp⟩, hfirst, hlast⟩
  exact hself.eq_trim.symm

theorem trim_trim (text : String) : trim (trim text) = trim text :=
  trim_eq_self (trimsTo_trim text).first (trimsTo_trim text).last

/-- White space around a text is trimmed off with what there is at its ends. -/
theorem trim_append {front back : String} (hfront : AllBlank front) (hback : AllBlank back)
    (text : String) : trim (front ++ text ++ back) = trim text := by
  obtain ⟨⟨inner, outer, hinner, houter, htext⟩, hfirst, hlast⟩ := trimsTo_trim text
  have henclosed : TrimsTo (front ++ text ++ back) (trim text) := by
    refine ⟨⟨front ++ inner, outer ++ back, ?_, ?_, ?_⟩, hfirst, hlast⟩
    · exact allBlank_append_iff.mpr ⟨hfront, hinner⟩
    · exact allBlank_append_iff.mpr ⟨houter, hback⟩
    · calc
        front ++ text ++ back = front ++ (inner ++ trim text ++ outer) ++ back := by rw [← htext]
        _ = front ++ inner ++ trim text ++ (outer ++ back) := by simp only [String.append_assoc]
  exact henclosed.eq_trim.symm

/-- White space inside a text is part of it. -/
example : trim "\n\u3000two words\t " = "two words" := by decide +kernel

end Gatehouse.Text
