import Gatehouse.Proofs.Token.Plain
import Gatehouse.Proofs.Token.Verified
import Gatehouse.Token.Id
import Mathlib.Data.List.Basic

/-! How long an issued token is. Each part of its claims has a bounded length but for the issuer, so
an issuer of moderate length is all it takes for a token that its holder can present. -/
namespace Gatehouse

namespace Json

/-- The number of bytes of a value as it is written. -/
def size (j : Json) : Nat := (j.render.flatMap String.utf8EncodeChar).length

/-- Whether a character stands in a literal as it is and takes one byte. -/
def isBare (c : Char) : Bool := escaped c = [c] && c.utf8Size = 1

theorem isBare_of_toNat {c : Char} (hlow : 0x22 < c.toNat) (hhigh : c.toNat < 0x80)
    (hne : c ≠ '\\') : isBare c = true := by
  have hescaped : escaped c = [c] := by
    unfold escaped
    split
    · contradiction
    · contradiction
    · contradiction
    · contradiction
    · contradiction
    · contradiction
    · contradiction
    · exact if_neg (by omega)
  have hsize : c.utf8Size = 1 := by
    rw [Char.utf8Size_eq_one_iff, UInt32.le_iff_toNat_le]
    exact Nat.le_of_lt_succ hhigh
  simp [isBare, hescaped, hsize]

theorem size_str {cs : List Char} (h : ∀ c ∈ cs, isBare c = true) :
    (str (String.ofList cs)).size = cs.length + 2 := by
  have hbare : ∀ c ∈ cs, escaped c = [c] ∧ c.utf8Size = 1 := fun c hc => by
    simpa [isBare] using h c hc
  have hescaped : cs.flatMap escaped = cs := by
    rw [List.flatMap_congr fun c hc => (hbare c hc).1, List.flatMap_singleton']
  have hbytes := length_utf8Encode_of_single fun c hc => (hbare c hc).2
  have hquote : (String.utf8EncodeChar '"').length = 1 := rfl
  simp only [size, str, render, quotedText, Spelling.text?, Option.getD_some, String.toList_ofList,
    hescaped, List.cons_append, List.flatMap_append, List.flatMap_cons, List.flatMap_nil,
    List.length_append, List.length_nil, hbytes, hquote]
  omega

theorem isBare_of_isDigit {c : Char} (h : c.isDigit = true) : isBare c = true := by
  simp only [Char.isDigit, Bool.and_eq_true, decide_eq_true_eq, ge_iff_le,
    UInt32.le_iff_toNat_le] at h
  have hzero : '0'.val.toNat = 0x30 := rfl
  have hnine : '9'.val.toNat = 0x39 := rfl
  have hvalue : c.toNat = c.val.toNat := rfl
  refine isBare_of_toNat (by omega) (by omega) fun heq => ?_
  rw [heq] at h
  exact absurd h (by decide)

theorem size_int_le (n : Int) : (int n).size ≤ (Nat.toDigits 10 n.natAbs).length + 1 := by
  have hbytes : ((Nat.toDigits 10 n.natAbs).flatMap String.utf8EncodeChar).length =
      (Nat.toDigits 10 n.natAbs).length := by
    apply length_utf8Encode_of_single
    intro c hc
    have hbare := isBare_of_isDigit (isDigit_toDigits hc)
    simp only [isBare, Bool.and_eq_true, decide_eq_true_eq] at hbare
    exact hbare.2
  have hminus : (['-'].flatMap String.utf8EncodeChar).length = 1 := rfl
  simp only [size, int, render, renderNumeral, Numeral.ofInt, List.append_nil, List.flatMap_append,
    List.length_append, hbytes]
  by_cases hneg : n < 0
  · simp only [hneg, decide_true, if_true]
    omega
  · simp only [hneg, decide_false, Bool.false_eq_true, if_false, List.flatMap_nil, List.length_nil]
    omega

end Json

namespace Token

theorem isBare_of_isLowerHex {c : Char} (h : Id.isLowerHex c = true) : Json.isBare c = true := by
  unfold Id.isLowerHex at h
  rcases Bool.or_eq_true_iff.mp h with h | h
  · exact Json.isBare_of_isDigit h
  · simp only [Bool.and_eq_true, decide_eq_true_eq, Char.le_def, UInt32.le_iff_toNat_le] at h
    have ha : 'a'.val.toNat = 0x61 := rfl
    have hf : 'f'.val.toNat = 0x66 := rfl
    have hvalue : c.toNat = c.val.toNat := rfl
    refine Json.isBare_of_toNat (by omega) (by omega) fun heq => ?_
    rw [heq] at h
    exact absurd h (by decide)

theorem isBare_of_isWellFormed {id : String} (h : Id.isWellFormed id = true) :
    ∀ c ∈ id.toList, Json.isBare c = true := by
  have hvariant (c : Char) (hc : c ∈ ['8', '9', 'a', 'b']) : Json.isBare c = true := by
    simp only [List.mem_cons, List.not_mem_nil, or_false] at hc
    rcases hc with rfl | rfl | rfl | rfl <;> decide
  unfold Id.isWellFormed at h
  simp only [Bool.and_eq_true, List.all_eq_true] at h
  intro c hc
  obtain ⟨i, hi, rfl⟩ := List.mem_iff_getElem.mp hc
  have hchar := h.2 (id.toList[i], i) (by simp [List.mem_zipIdx_iff_getElem?])
  dsimp only at hchar
  -- A hyphen, the version, the variant, or any other digit.
  split at hchar
  · rw [of_decide_eq_true hchar]
    decide
  · split at hchar
    · rw [of_decide_eq_true hchar]
      decide
    · split at hchar
      · exact hvariant _ (List.contains_iff_mem.mp hchar)
      · exact isBare_of_isLowerHex hchar

theorem Id.size_str {id : String} (h : Id.isWellFormed id = true) : (Json.str id).size = 38 := by
  have hlength := h
  simp only [Id.isWellFormed, Bool.and_eq_true, decide_eq_true_eq] at hlength
  have hsize := Json.size_str (isBare_of_isWellFormed h)
  rw [String.ofList_toList, String.length_toList, hlength.1] at hsize
  exact hsize

theorem size_userId_le (user : UserId) : (Json.str user.text).size ≤ 22 := by
  have hbare : ∀ c ∈ Nat.toDigits 10 user.value.toNat, Json.isBare c = true :=
    fun c hc => Json.isBare_of_isDigit (Json.isDigit_toDigits hc)
  have hdigits : (Nat.toDigits 10 user.value.toNat).length ≤ 20 := by
    rw [Nat.length_toDigits_le_iff (by decide) (by decide)]
    exact Nat.lt_trans user.value.toNat_lt (by decide)
  have hsize := Json.size_str hbare
  rw [← user.toList_text, String.ofList_toList, user.toList_text] at hsize
  omega

theorem size_int64_le (n : Int64) : (Json.int n.toInt).size ≤ 20 := by
  have hlow : -0x8000000000000000 ≤ n.toInt := n.le_toInt
  have hhigh : n.toInt < 0x8000000000000000 := n.toInt_lt
  have hdigits : (Nat.toDigits 10 n.toInt.natAbs).length ≤ 19 := by
    rw [Nat.length_toDigits_le_iff (by decide) (by decide)]
    omega
  exact Nat.le_trans (Json.size_int_le _) (Nat.succ_le_succ hdigits)

theorem size_kind_le (kind : Kind) : kind.toJson.size ≤ 9 := by
  cases kind <;> decide

theorem Claims.size_toJson (c : Claims) :
    c.toJson.size = 43 + (Json.str c.subject).size + (Json.str c.jti).size +
      (Json.int c.issuedAt.toInt).size + (Json.int c.expires.toInt).size +
      (Json.str c.issuer).size + c.kind.toJson.size := by
  have hname (name : String) (h : name ∈ ["sub", "jti", "iat", "exp", "iss", "typ"]) :
      ((Json.quotedText ((Spelling.plain name).text?.getD "")).flatMap
        String.utf8EncodeChar).length = 5 := by
    revert name
    decide
  have hcomma : Char.utf8Size ',' = 1 := rfl
  have hcolon : Char.utf8Size ':' = 1 := rfl
  have hopening : Char.utf8Size '\x7b' = 1 := rfl
  have hclosing : Char.utf8Size '\x7d' = 1 := rfl
  simp only [toJson, Json.size, Json.record, Json.render, Json.renderMembers, List.map_cons,
    List.map_nil, List.flatMap_append, List.flatMap_cons, List.flatMap_nil, List.length_append,
    List.length_nil, String.length_utf8EncodeChar, hname "sub" (by decide),
    hname "jti" (by decide), hname "iat" (by decide), hname "exp" (by decide),
    hname "iss" (by decide), hname "typ" (by decide), hcomma, hcolon, hopening, hclosing]
  omega

theorem utf8ByteSize_issue {c : Config} {kind : Kind} {user : UserId} {jti : String}
    {t : Timestamp} {issued : Issued} (h : issue c kind user jti t = some issued) :
    issued.text.utf8ByteSize =
      (4 * (claimsFor c kind user jti t issued.expiresAt).toJson.size + 2) / 3 + 81 := by
  rw [(issue_eq_some h).2, utf8ByteSize_ofList (isPlain_signed _ _), length_signed,
    length_encodeJson]
  rfl

/-- A well-formed id and an issuer of up to 2859 bytes, as JSON has it, make a token that can be
presented. -/
theorem utf8ByteSize_issue_le {c : Config} {kind : Kind} {user : UserId} {jti : String}
    {t : Timestamp} {issued : Issued} (h : issue c kind user jti t = some issued)
    (hjti : Id.isWellFormed jti = true) (hissuer : (Json.str c.issuer).size ≤ 2859) :
    issued.text.utf8ByteSize ≤ maxTokenLength := by
  have hmax : maxTokenLength = 4096 := rfl
  have huser := size_userId_le user
  have hid := Id.size_str hjti
  have hissued := size_int64_le (.ofInt t.seconds)
  have hexpires := size_int64_le (.ofInt issued.expiresAt.seconds)
  have hkind := size_kind_le kind
  rw [utf8ByteSize_issue h, Claims.size_toJson]
  simp only [claimsFor]
  omega

theorem lt_utf8ByteSize_issue {c : Config} {kind : Kind} {user : UserId} {jti : String}
    {t : Timestamp} {issued : Issued} (h : issue c kind user jti t = some issued)
    (hissuer : 3011 < (Json.str c.issuer).size) : maxTokenLength < issued.text.utf8ByteSize := by
  have hmax : maxTokenLength = 4096 := rfl
  rw [utf8ByteSize_issue h, Claims.size_toJson]
  simp only [claimsFor]
  omega

/-- All that can keep an issued token from being presented is its length. -/
theorem checkToken_issue {c : Config} {kind : Kind} {user : UserId} {jti : String} {t : Timestamp}
    {issued : Issued} (h : issue c kind user jti t = some issued) :
    checkToken issued.text =
      if issued.text.utf8ByteSize ≤ maxTokenLength then .ok issued.text
      else .error (.invalidField "Token is too long") := by
  have htext := (issue_eq_some h).2
  have htrim : Text.trim issued.text = issued.text := by
    rw [htext, Text.trim_ofList (isPlain_signed _ _)]
  have hempty : issued.text.isEmpty = false := by
    rw [htext]
    simp [signed]
  unfold checkToken
  simp only [htrim, hempty, Bool.false_eq_true, if_false, gt_iff_lt, ← Nat.not_le, ite_not]

end Token

end Gatehouse
