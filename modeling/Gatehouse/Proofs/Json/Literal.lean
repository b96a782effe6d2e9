import Gatehouse.Json.Reader
import Gatehouse.Json.Writer
import Mathlib.Data.List.TakeWhile
import Mathlib.Data.Option.Basic

/-! Scanning what the writer wrote: a string literal becomes one lexeme that spells the same text,
and a word becomes one lexeme as soon as a character follows that ends it. -/
namespace Gatehouse.Json

/-- How a text is spelled after it was written. -/
def written (s : String) : Spelling :=
  if s.toList.all fun c => escaped c = [c] then .plain s else .escaped s

@[simp] theorem text?_written (s : String) : (written s).text? = some s := by
  unfold written
  split <;> rfl

def Scanner.run (s : Scanner) (cs : List Char) : Option Scanner :=
  (cs.map some).foldlM Scanner.step s

@[simp] theorem Scanner.run_nil (s : Scanner) : s.run [] = some s := rfl

@[simp] theorem Scanner.run_cons (s : Scanner) (c : Char) (cs : List Char) :
    s.run (c :: cs) = (s.step (some c)).bind fun s => s.run cs := rfl

theorem Scanner.run_append (s : Scanner) (cs ds : List Char) :
    s.run (cs ++ ds) = (s.run cs).bind fun s => s.run ds := by
  unfold Scanner.run
  rw [List.map_append, List.foldlM_append]
  rfl

/-! ## String literals -/

theorem joinHalves_toNat (cs : List Char) : joinHalves (cs.map Char.toNat) = some cs := by
  induction cs with
  | nil => rfl
  | cons c cs ih =>
    have hvalid : c.toNat.isValidChar := c.valid
    have hstep : joinHalves ((c :: cs).map Char.toNat) =
        (joinHalves (cs.map Char.toNat)).map (c :: ·) := by
      delta joinHalves
      exact dif_pos hvalid
    rw [hstep, ih]
    rfl

private theorem hexDigit?_digitChar : ∀ n < 16, Text.hexDigit? (Nat.digitChar n) = some n := by
  decide

private theorem run_control (c : Char) (h : c.toNat < 0x20) (codes : List Nat) (touched : Bool)
    (found : List Lexeme) :
    Scanner.run ⟨.quote codes touched, found⟩
        ['\\', 'u', '0', '0', Nat.digitChar (c.toNat / 16), Nat.digitChar (c.toNat % 16)] =
      some ⟨.quote (c.toNat :: codes) true, found⟩ := by
  have hzero : Text.hexDigit? '0' = some 0 := rfl
  have hhigh := hexDigit?_digitChar (c.toNat / 16) (by omega)
  have hlow := hexDigit?_digitChar (c.toNat % 16) (by omega)
  have hcode : 16 * (c.toNat / 16) + c.toNat % 16 = c.toNat := Nat.div_add_mod _ _
  simp [Scanner.step, hzero, hhigh, hlow, hcode]

/-- The scanner inside a literal takes in one written character. -/
theorem Scanner.run_escaped (c : Char) (codes : List Nat) (touched : Bool)
    (found : List Lexeme) :
    Scanner.run ⟨.quote codes touched, found⟩ (escaped c) =
      some ⟨.quote (c.toNat :: codes) (touched || !decide (escaped c = [c])), found⟩ := by
  unfold escaped
  split
  case h_8 hquote hslash _ _ _ _ _ =>
    have hquote : c ≠ '"' := hquote
    have hslash : c ≠ '\\' := hslash
    split
    · rename_i h
      rw [run_control c h]
      simp
    · rename_i h
      simp [Scanner.step, h, hquote, hslash]
  all_goals simp [Scanner.step, escapeCode?]

theorem Scanner.run_flatMap_escaped (cs : List Char) (codes : List Nat) (touched : Bool)
    (found : List Lexeme) :
    Scanner.run ⟨.quote codes touched, found⟩ (cs.flatMap escaped) =
      some ⟨.quote ((cs.map Char.toNat).reverse ++ codes)
        (touched || !cs.all fun c => escaped c = [c]), found⟩ := by
  induction cs generalizing codes touched with
  | nil => simp
  | cons c cs ih =>
    rw [List.flatMap_cons, Scanner.run_append, Scanner.run_escaped, Option.bind_some, ih]
    simp [Bool.or_assoc]

theorem spelling_toNat (s : String) :
    spelling (s.toList.map Char.toNat) (!s.toList.all fun c => escaped c = [c]) = written s := by
  unfold spelling written
  rw [joinHalves_toNat]
  cases s.toList.all fun c => decide (escaped c = [c]) <;> simp [String.ofList_toList]

theorem Scanner.run_quotedText (s : String) (found : List Lexeme) :
    Scanner.run ⟨.gap, found⟩ (quotedText s) =
      some ⟨.gap, .literal (.text (written s)) :: found⟩ := by
  have hopen : Scanner.step ⟨.gap, found⟩ (some '"') = some ⟨.quote [] false, found⟩ := rfl
  rw [quotedText, List.cons_append, Scanner.run_cons, hopen, Option.bind_some,
    Scanner.run_append, Scanner.run_flatMap_escaped, Option.bind_some, ← spelling_toNat]
  simp [Scanner.step]

/-! ## Words -/

/-- The scanner has found these lexemes, the last of which may be a word that has not ended. -/
inductive Scanner.Holds : Scanner → List Lexeme → Prop
  | gap (found : List Lexeme) : Holds ⟨.gap, found⟩ found
  | word {chars : List Char} {value : Json} (found : List Lexeme)
      (h : word? chars.reverse = some value) : Holds ⟨.word chars, found⟩ (.literal value :: found)

/-- A mark ends whatever stands before it. -/
theorem Scanner.Holds.step_mark {s : Scanner} {found : List Lexeme} (hs : s.Holds found) {c : Char}
    {lexeme : Lexeme} (hc : mark? c = some lexeme) (hspace : isSpace c = false) (hquote : c ≠ '"') :
    s.step (some c) = some ⟨.gap, lexeme :: found⟩ := by
  have hstart (found : List Lexeme) : Scanner.start found c = ⟨.gap, lexeme :: found⟩ := by
    simp [Scanner.start, hspace, hquote, hc]
  cases hs with
  | gap =>
    simp only [Scanner.step]
    rw [hstart]
  | word found h =>
    have hends : endsWord c = true := by simp [endsWord, hc]
    simp only [Scanner.step, hends, if_true, h, Option.map_some, hstart]

private theorem run_word_continued (cs chars : List Char) (h : ∀ c ∈ cs, endsWord c = false)
    (found : List Lexeme) :
    Scanner.run ⟨.word chars, found⟩ cs = some ⟨.word (cs.reverse ++ chars), found⟩ := by
  induction cs generalizing chars with
  | nil => rfl
  | cons c cs ih =>
    have hc : endsWord c = false := h c (by simp)
    have hstep : Scanner.step ⟨.word chars, found⟩ (some c) = some ⟨.word (c :: chars), found⟩ := by
      simp [Scanner.step, hc]
    rw [Scanner.run_cons, hstep, Option.bind_some, ih _ fun d hd => h d (by simp [hd])]
    simp

/-- A word between two gaps is read as its value. -/
theorem Scanner.run_word {cs : List Char} {value : Json} (hword : word? cs = some value)
    (hne : cs ≠ []) (h : ∀ c ∈ cs, endsWord c = false) (found : List Lexeme) :
    ∃ s, Scanner.run ⟨.gap, found⟩ cs = some s ∧ s.Holds (.literal value :: found) := by
  cases cs with
  | nil => exact absurd rfl hne
  | cons c cs =>
    have hc := h c (by simp)
    simp only [endsWord, Bool.or_eq_false_iff, beq_eq_false_iff_ne, Option.isSome_eq_false_iff,
      Option.isNone_iff_eq_none] at hc
    obtain ⟨⟨hspace, hquote⟩, hmark⟩ := hc
    have hstep : Scanner.step ⟨.gap, found⟩ (some c) = some ⟨.word [c], found⟩ := by
      simp [Scanner.step, Scanner.start, hspace, hquote, hmark]
    refine ⟨⟨.word (cs.reverse ++ [c]), found⟩, ?_, .word found (by simpa using hword)⟩
    rw [Scanner.run_cons, hstep, Option.bind_some,
      run_word_continued _ _ fun d hd => h d (by simp [hd])]

theorem endsWord_of_all {cs : List Char} (h : (cs.all fun c => !endsWord c) = true) :
    ∀ c ∈ cs, endsWord c = false := by
  intro c hc
  simpa using List.all_eq_true.mp h c hc

/-! ## Numerals -/

theorem digitsValue_toDigits (n : Nat) : Text.digitsValue (Nat.toDigits 10 n) = n := by
  have h := Nat.ofDigitChars_ten_toDigits (n := n)
  rw [Nat.ofDigitChars_eq_foldl] at h
  exact h

theorem int?_ofInt (n : Int) : (Numeral.ofInt n).int? = some n := by
  simp only [Numeral.int?, Numeral.ofInt, digitsValue_toDigits]
  by_cases h : n < 0
  · have hne : n.natAbs ≠ 0 := by omega
    simp only [h, decide_true, if_true, if_neg hne]
    congr 1
    omega
  · simp only [h, decide_false, if_neg Bool.false_ne_true]
    congr 1
    omega

theorem isDigit_toDigits {n : Nat} {c : Char} (h : c ∈ Nat.toDigits 10 n) : c.isDigit = true :=
  Nat.isDigit_of_mem_toDigits (by decide) (by decide) h

/-- Decimals have no leading zero. -/
theorem head?_toDigits {n : Nat} (h : (Nat.toDigits 10 n).head? = some '0') :
    Nat.toDigits 10 n = ['0'] := by
  induction n using Nat.strongRecOn with
  | ind n ih =>
    by_cases hn : n < 10
    · rw [Nat.toDigits_of_lt_base hn] at h ⊢
      simpa using h
    · have hsplit := Nat.toDigits_of_base_le (by decide : 1 < 10) (Nat.le_of_not_lt hn)
      have hfirst : (Nat.toDigits 10 (n / 10)).head? = some '0' := by
        rw [hsplit, List.head?_append, List.head?_eq_some_head Nat.toDigits_ne_nil] at h
        rw [List.head?_eq_some_head Nat.toDigits_ne_nil]
        exact h
      have hzero := ih (n / 10) (by omega) hfirst
      have hvalue := digitsValue_toDigits (n / 10)
      rw [hzero] at hvalue
      have : n / 10 = 0 := hvalue.symm
      omega

theorem endsWord_of_isDigit {c : Char} (h : c.isDigit = true) : endsWord c = false := by
  have hne (d : Char) (hd : d.isDigit = false) : c ≠ d := by
    rintro rfl
    simp [h] at hd
  have hmark : mark? c = none := by
    unfold mark?
    split
    case h_7 => rfl
    all_goals exact absurd rfl (hne _ rfl)
  simp [endsWord, isSpace, hmark, hne ' ' rfl, hne '\t' rfl, hne '\n' rfl, hne '\r' rfl,
    hne '"' rfl]

private theorem numeral?_toDigits (negative : Bool) (n : Nat) :
    numeral? ((if negative then ['-'] else []) ++ Nat.toDigits 10 n) =
      some ⟨negative, Nat.toDigits 10 n, none, none⟩ := by
  have hdigits : ∀ c ∈ Nat.toDigits 10 n, c.isDigit = true := fun c hc => isDigit_toDigits hc
  have htake : (Nat.toDigits 10 n).takeWhile Char.isDigit = Nat.toDigits 10 n :=
    List.takeWhile_eq_self_iff.mpr hdigits
  have hdrop : (Nat.toDigits 10 n).dropWhile Char.isDigit = [] :=
    List.dropWhile_eq_nil_iff.mpr hdigits
  have hwhole : Nat.toDigits 10 n ≠ [] ∧
      ((Nat.toDigits 10 n).head? = some '0' → Nat.toDigits 10 n = ['0']) :=
    ⟨Nat.toDigits_ne_nil, head?_toDigits⟩
  cases negative with
  | true =>
    simp only [numeral?, if_true, List.cons_append, List.nil_append, htake, hdrop, exponentPart?,
      guard, if_pos hwhole]
    rfl
  | false =>
    cases h : Nat.toDigits 10 n with
    | nil => exact absurd h Nat.toDigits_ne_nil
    | cons c cs =>
      have hminus : c ≠ '-' := by
        rintro rfl
        exact absurd (hdigits '-' (by simp [h])) (by decide)
      rw [h] at htake hdrop hwhole
      unfold numeral?
      rw [if_neg Bool.false_ne_true, List.nil_append]
      split
      rename_i sign rest hsign
      split at hsign
      · rename_i heq
        exact absurd (List.cons.inj heq).1 hminus
      · cases hsign
        simp only [htake, hdrop, exponentPart?, guard, if_pos hwhole]
        rfl

/-- A written integer is a word of its own. -/
theorem word?_ofInt (n : Int) : word? (renderNumeral (.ofInt n)) = some (int n) := by
  have hnumeral := numeral?_toDigits (decide (n < 0)) n.natAbs
  have hrender : renderNumeral (.ofInt n) =
      (if decide (n < 0) then ['-'] else []) ++ Nat.toDigits 10 n.natAbs := by
    simp [renderNumeral, Numeral.ofInt]
  have hletter (c : Char) (hc : c ≠ '-') (hdigit : c.isDigit = false) :
      c ∉ renderNumeral (.ofInt n) := by
    intro hmem
    rw [hrender, List.mem_append] at hmem
    rcases hmem with hmem | hmem
    · split at hmem <;> simp_all
    · simp [isDigit_toDigits hmem] at hdigit
  have hne (c : Char) (cs : List Char) (hc : c ≠ '-') (hdigit : c.isDigit = false) :
      renderNumeral (.ofInt n) ≠ c :: cs := by
    intro heq
    exact hletter c hc hdigit (heq ▸ List.mem_cons_self)
  unfold word?
  rw [if_neg (hne _ _ (by decide) (by decide)), if_neg (hne _ _ (by decide) (by decide)),
    if_neg (hne _ _ (by decide) (by decide)), hrender, hnumeral]
  rfl

theorem endsWord_renderNumeral {n : Int} {c : Char} (h : c ∈ renderNumeral (.ofInt n)) :
    endsWord c = false := by
  simp only [renderNumeral, Numeral.ofInt, List.append_nil, List.mem_append] at h
  rcases h with h | h
  · have hc : c = '-' := by
      by_cases hn : n < 0 <;> simp_all
    rw [hc]
    decide
  · exact endsWord_of_isDigit (isDigit_toDigits h)

theorem renderNumeral_ne_nil (n : Int) : renderNumeral (.ofInt n) ≠ [] := by
  simp [renderNumeral, Numeral.ofInt, Nat.toDigits_ne_nil]

end Gatehouse.Json
