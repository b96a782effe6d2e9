import Gatehouse.Proofs.Text.Digits
import Gatehouse.Proofs.Time.Calendar
import Gatehouse.Time.Timestamp

/-! The text of an instant names this instant, and the reader finds it: in every supported year,
with any fraction of a second and in a leap second. Nanoseconds that run on after a second other
than the last of a minute have no text of their own; what is read is an instant of the next second.
-/
namespace Gatehouse.Timestamp

/-- An instant of the supported years. Its nanoseconds may run on through one more second, whatever
the second. -/
structure IsSupported (t : Timestamp) : Prop where
  inRange : inRange t.seconds = true
  within : t.nanos < 2 * nanosPerSecond

/-- A supported instant with a text of its own. A text lets nanoseconds run on after second 59 only,
as those of a leap second. -/
structure IsValid (t : Timestamp) : Prop where
  inRange : inRange t.seconds = true
  within : t.nanos < nanosPerSecond ∨ t.nanos < 2 * nanosPerSecond ∧ t.seconds % 60 = 59

instance (t : Timestamp) : Decidable t.IsSupported :=
  decidable_of_iff (Timestamp.inRange t.seconds = true ∧ t.nanos < 2 * nanosPerSecond)
    ⟨fun h => ⟨h.1, h.2⟩, fun h => ⟨h.inRange, h.within⟩⟩

instance (t : Timestamp) : Decidable t.IsValid :=
  decidable_of_iff (Timestamp.inRange t.seconds = true ∧
      (t.nanos < nanosPerSecond ∨ t.nanos < 2 * nanosPerSecond ∧ t.seconds % 60 = 59))
    ⟨fun h => ⟨h.1, h.2⟩, fun h => ⟨h.inRange, h.within⟩⟩

variable {width n : Nat} {rest : List Char}

/-! ## Fields -/

/-- A number ends at its greatest width or at a character that is no digit. -/
theorem takeNumber_append {digits : List Char} (hne : digits ≠ [])
    (hdigits : ∀ c ∈ digits, c.isDigit = true) (hwidth : digits.length ≤ width)
    (hend : digits.length = width ∨ ∀ c ∈ rest.head?, c.isDigit = false) :
    takeNumber width (digits ++ rest) = some (Text.digitsValue digits, rest) := by
  have htake : ((digits ++ rest).take width).takeWhile Char.isDigit = digits := by
    rw [List.take_append, List.take_of_length_le hwidth, List.takeWhile_append_of_pos hdigits]
    rcases hend with hend | hend
    · simp [hend]
    · cases rest with
      | nil => simp
      | cons c rest =>
        have hc : c.isDigit = false := hend c rfl
        cases width - digits.length <;> simp [hc]
  simp only [takeNumber, htake, if_neg hne, List.drop_left]

theorem takeNumber_padded (hwidth : 0 < width) (hn : n < 10 ^ width) :
    takeNumber width (Text.padded width n ++ rest) = some (n, rest) := by
  have hlength := Text.length_padded hwidth hn
  rw [takeNumber_append (Text.padded_ne_nil width n) (fun c hc => Text.isDigit_padded hc)
    hlength.le (.inl hlength), Text.digitsValue_padded]

theorem isDigit_of_padded_append {c : Char} {cs : List Char}
    (h : Text.padded width n ++ rest = c :: cs) : c.isDigit = true := by
  cases hpadded : Text.padded width n with
  | nil => exact absurd hpadded (Text.padded_ne_nil width n)
  | cons d ds =>
    have hd : d ∈ Text.padded width n := by simp [hpadded]
    rw [hpadded] at h
    rw [← (List.cons.inj h).1]
    exact Text.isDigit_padded hd

theorem trimLeft_padded :
    Text.trimLeft (Text.padded width n ++ rest) = Text.padded width n ++ rest := by
  cases h : Text.padded width n ++ rest with
  | nil => rfl
  | cons c cs => exact Text.trimLeft_eq_self (Text.isBlank_of_isDigit (isDigit_of_padded_append h))

theorem takeField_padded (hwidth : 0 < width) (hn : n < 10 ^ width) :
    takeField width (Text.padded width n ++ rest) = some (n, rest) := by
  rw [takeField, trimLeft_padded, takeNumber_padded hwidth hn]

theorem takeMark_cons {mark : Char} (h : Text.isBlank mark = false) :
    takeMark mark (mark :: rest) = some rest := by
  rw [takeMark, Text.trimLeft_eq_self h]
  simp

/-- A year without a sign has four digits. -/
theorem takeYear_padded (hn : n < 10 ^ 4) :
    takeYear (Text.padded 4 n ++ rest) = some ((n : Int), rest) := by
  unfold takeYear
  rw [trimLeft_padded]
  split
  · rename_i hminus
    exact absurd (isDigit_of_padded_append hminus) (by decide)
  · rename_i hplus
    exact absurd (isDigit_of_padded_append hplus) (by decide)
  · rw [takeNumber_padded (by decide) hn, Option.map_some]

theorem takeNumber_padded_long (width n : Nat) (rest : List Char) (mark : Char)
    (hmark : mark.isDigit = false) :
    takeNumber (Text.padded width n ++ mark :: rest).length (Text.padded width n ++ mark :: rest) =
      some (n, mark :: rest) := by
  have hdigits : ∀ c ∈ Text.padded width n, c.isDigit = true := fun c hc => Text.isDigit_padded hc
  rw [takeNumber_append (Text.padded_ne_nil width n) hdigits (by simp)
    (.inr (by simpa using hmark)), Text.digitsValue_padded]

theorem takeYear_yearText (year : Int) :
    takeYear (yearText year ++ '-' :: rest) = some (year, '-' :: rest) := by
  unfold yearText
  split
  · rename_i h
    rw [takeYear_padded (by omega)]
    congr 2
    omega
  · have hlong := takeNumber_padded_long 4 year.natAbs rest '-' rfl
    by_cases hnegative : year < 0
    · have hminus : Text.isBlank '-' = false := rfl
      simp only [hnegative, if_true, List.cons_append, takeYear, Text.trimLeft_eq_self hminus, hlong,
        Option.map_some]
      congr 2
      omega
    · have hplus : Text.isBlank '+' = false := rfl
      simp only [hnegative, if_false, List.cons_append, takeYear, Text.trimLeft_eq_self hplus, hlong,
        Option.map_some]
      congr 2
      omega

theorem takeSeparator_cons (rest : List Char) : takeSeparator ('T' :: rest) = some rest := rfl

theorem takeOffset_utc : takeOffset ['Z'] = some (0, []) := rfl

/-! ## Fractions and the whole text -/

/-- A fraction of some width counts in its own units. -/
theorem takeFraction_padded (hwidth : 0 < width) (hnine : width ≤ 9) (hn : n < 10 ^ width)
    {mark : Char} (hmark : mark.isDigit = false) :
    takeFraction ('.' :: Text.padded width n ++ mark :: rest) =
      some (n * 10 ^ (9 - width), mark :: rest) := by
  have hlength := Text.length_padded hwidth hn
  have hnumber : takeNumber 9 (Text.padded width n ++ mark :: rest) = some (n, mark :: rest) := by
    rw [takeNumber_append (Text.padded_ne_nil width n) (fun c hc => Text.isDigit_padded hc)
      (by omega) (.inr (by simpa using hmark)), Text.digitsValue_padded]
  have hdigits : (Text.padded width n ++ mark :: rest).length - (mark :: rest).length = width := by
    rw [List.length_append, hlength, Nat.add_sub_cancel]
  simp only [takeFraction, List.cons_append, hnumber, Option.bind_eq_bind, Option.bind_some, hdigits]
  rw [List.dropWhile_cons_of_neg (by simp [hmark])]
  rfl

theorem takeFraction_fractionText {nanos : Nat} (h : nanos < nanosPerSecond) {mark : Char}
    (hmark : mark.isDigit = false) (hpoint : mark ≠ '.') :
    takeFraction (fractionText nanos ++ mark :: rest) = some (nanos, mark :: rest) := by
  unfold nanosPerSecond at h
  unfold fractionText
  split
  · rename_i hzero
    simp [takeFraction, hzero, hpoint]
  · split
    · rw [takeFraction_padded (by decide) (by decide) (by omega) hmark]
      congr 2
      omega
    · split
      · rw [takeFraction_padded (by decide) (by decide) (by omega) hmark]
        congr 2
        omega
      · rw [takeFraction_padded (by decide) (by decide) (by omega) hmark]
        congr 2
        omega

private theorem bind_of_eq_some {α β : Type} {o : Option α} {a : α} (h : o = some a)
    (f : α → Option β) : o >>= f = f a := by
  rw [h]
  rfl

theorem parse?_render {t : Timestamp} (h : t.IsValid) : parse? t.render = some t := by
  obtain ⟨seconds, nanos⟩ := t
  obtain ⟨hrange, hwithin⟩ := h
  have hvalid := Date.isValid_ofDays (seconds / 86400)
  have hdays := Date.toDays_ofDays (seconds / 86400)
  simp only at hrange hwithin
  have hyear : -262143 ≤ (Date.ofDays (seconds / 86400)).year ∧
      (Date.ofDays (seconds / 86400)).year ≤ 262142 := by
    simp only [inRange, Bool.and_eq_true, decide_eq_true_eq] at hrange
    unfold firstSecond lastSecond at hrange
    exact Date.year_ofDays (by omega) (by omega)
  unfold render
  simp only
  generalize Date.ofDays (seconds / 86400) = date at *
  generalize hsecond : (seconds % 86400).toNat = second
  obtain ⟨hmonth, hday⟩ := Date.le_of_isValid hvalid
  have hmonth : date.month < 10 ^ 2 := by omega
  have hday : date.day < 10 ^ 2 := by omega
  have hhour : second / 3600 < 10 ^ 2 := by omega
  have hminute : second / 60 % 60 < 10 ^ 2 := by omega
  have hsixty : second % 60 + nanos / nanosPerSecond ≤ 60 := by
    unfold nanosPerSecond at *
    omega
  have hfraction : nanos % nanosPerSecond < nanosPerSecond := Nat.mod_lt _ (by decide)
  simp only [List.append_assoc, List.cons_append]
  unfold parse?
  rw [bind_of_eq_some (takeYear_yearText _)]
  dsimp only
  rw [bind_of_eq_some (takeMark_cons rfl), bind_of_eq_some (takeField_padded (by decide) hmonth)]
  dsimp only
  rw [bind_of_eq_some (takeMark_cons rfl), bind_of_eq_some (takeField_padded (by decide) hday)]
  dsimp only
  rw [bind_of_eq_some (takeSeparator_cons _),
    bind_of_eq_some (takeField_padded (by decide) hhour)]
  dsimp only
  rw [bind_of_eq_some (takeMark_cons rfl), bind_of_eq_some (takeField_padded (by decide) hminute)]
  dsimp only
  rw [bind_of_eq_some (takeMark_cons rfl),
    bind_of_eq_some (takeField_padded (by decide) (by omega))]
  dsimp only
  rw [bind_of_eq_some (takeFraction_fractionText hfraction rfl (by decide))]
  dsimp only
  rw [bind_of_eq_some takeOffset_utc]
  have hseconds : date.toDays * 86400 + ((second / 3600 * 3600 + second / 60 % 60 * 60 +
      if second % 60 + nanos / nanosPerSecond = 60 then 59
        else second % 60 + nanos / nanosPerSecond : Nat) : Int) - 0 = seconds := by
    unfold nanosPerSecond at *
    rw [hdays]
    split <;> omega
  have hnanos : nanos % nanosPerSecond +
      (if second % 60 + nanos / nanosPerSecond = 60 then nanosPerSecond else 0) = nanos := by
    unfold nanosPerSecond at *
    split <;> omega
  have hclock : second / 3600 < 24 ∧ second / 60 % 60 < 60 ∧
      second % 60 + nanos / nanosPerSecond ≤ 60 ∧ (0 : Int).natAbs < 86400 := by
    omega
  dsimp only
  rw [hseconds, hnanos]
  simp [guard, hyear, hvalid, hclock, hrange, Text.trimLeft]

/-! ## Nanoseconds that run on -/

/-- The instant that the text of an instant names. -/
def settled (t : Timestamp) : Timestamp :=
  if t.nanos < nanosPerSecond ∨ t.seconds % 60 = 59 then t
  else ⟨t.seconds + 1, t.nanos - nanosPerSecond⟩

variable {t : Timestamp}

theorem isValid_settled (h : t.IsSupported) : t.settled.IsValid := by
  obtain ⟨hrange, hwithin⟩ := h
  unfold settled
  split
  · rename_i hplain
    exact ⟨hrange, hplain.imp_right fun hlast => ⟨hwithin, hlast⟩⟩
  · -- The range ends with a minute, so it goes on after every other second.
    rename_i hrunning
    simp only [inRange, Bool.and_eq_true, decide_eq_true_eq] at hrange
    have hend : lastSecond % 60 = 59 := by decide
    refine ⟨?_, .inl (show t.nanos - nanosPerSecond < nanosPerSecond by omega)⟩
    simp only [inRange, Bool.and_eq_true, decide_eq_true_eq]
    omega

theorem settled_eq_self_iff (h : t.IsSupported) : t.settled = t ↔ t.IsValid := by
  constructor
  · intro hsame
    rw [← hsame]
    exact isValid_settled h
  · intro hvalid
    exact if_pos (hvalid.within.imp_right And.right)

theorem render_settled (t : Timestamp) : t.settled.render = t.render := by
  unfold settled
  split
  · rfl
  · rename_i hrunning
    rw [not_or, Nat.not_lt] at hrunning
    obtain ⟨hnanos, hsecond⟩ := hrunning
    have hday : (t.seconds + 1) / 86400 = t.seconds / 86400 := by omega
    have hhour : ((t.seconds + 1) % 86400).toNat / 3600 = (t.seconds % 86400).toNat / 3600 := by
      omega
    have hminute : ((t.seconds + 1) % 86400).toNat / 60 % 60 =
        (t.seconds % 86400).toNat / 60 % 60 := by
      omega
    have hclock : ((t.seconds + 1) % 86400).toNat % 60 + (t.nanos - nanosPerSecond) / nanosPerSecond =
        (t.seconds % 86400).toNat % 60 + t.nanos / nanosPerSecond := by
      unfold nanosPerSecond at *
      omega
    have hfraction : (t.nanos - nanosPerSecond) % nanosPerSecond = t.nanos % nanosPerSecond :=
      (Nat.mod_eq_sub_mod hnanos).symm
    simp only [render, hday, hhour, hminute, hclock, hfraction]

theorem parse?_render_settled (h : t.IsSupported) : parse? t.render = some t.settled := by
  rw [← render_settled, parse?_render (isValid_settled h)]

end Gatehouse.Timestamp
