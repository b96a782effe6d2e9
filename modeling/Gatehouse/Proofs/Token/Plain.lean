import Gatehouse.Proofs.Text.Blank
import Gatehouse.Proofs.Token.Signed

/-! The text of a signed token is plain: it has no blanks, and each of its characters is one byte.
What a holder presents is therefore just what was signed, if it is not too long. -/
namespace Gatehouse

/-- A character that trimming keeps and that takes one byte. -/
def isPlain (c : Char) : Bool := !Text.isBlank c && c.utf8Size = 1

theorem Text.Base64.isPlain_digit : ∀ n < 64, isPlain (urlSafe.digit n) = true := by
  decide

theorem Text.Base64.isPlain_encode (bytes : Bytes) :
    ∀ c ∈ urlSafe.encode bytes, isPlain c = true := by
  intro c hc
  rw [encode_eq_map, List.mem_map] at hc
  obtain ⟨n, hn, rfl⟩ := hc
  exact isPlain_digit n (sextets_lt bytes n hn)

theorem Text.trim_ofList {cs : List Char} (h : ∀ c ∈ cs, isPlain c = true) :
    trim (String.ofList cs) = String.ofList cs := by
  have hplain : ∀ c ∈ (String.ofList cs).toList, c ∉ whiteSpace := by
    intro c hc
    rw [String.toList_ofList] at hc
    simpa [← isBlank_eq_false_iff] using (Bool.and_eq_true_iff.mp (h c hc)).1
  exact trim_eq_self (fun c hc => hplain c (List.mem_of_mem_head? hc))
    fun c hc => hplain c (List.mem_of_mem_getLast? hc)

theorem length_utf8Encode_of_single {cs : List Char} (h : ∀ c ∈ cs, c.utf8Size = 1) :
    (cs.flatMap String.utf8EncodeChar).length = cs.length := by
  induction cs with
  | nil => rfl
  | cons c cs ih =>
    rw [List.flatMap_cons, List.length_append, String.length_utf8EncodeChar, h c (by simp),
      ih fun d hd => h d (by simp [hd]), List.length_cons, Nat.add_comm]

theorem utf8ByteSize_ofList {cs : List Char} (h : ∀ c ∈ cs, isPlain c = true) :
    (String.ofList cs).utf8ByteSize = cs.length := by
  have hbytes : (cs.flatMap String.utf8EncodeChar).length = cs.length := by
    refine length_utf8Encode_of_single fun c hc => ?_
    simpa using (Bool.and_eq_true_iff.mp (h c hc)).2
  rw [← String.size_toByteArray, String.toByteArray_ofList]
  simpa [List.utf8Encode] using hbytes

theorem checkToken_ofList {cs : List Char} (h : ∀ c ∈ cs, isPlain c = true) (hne : cs ≠ [])
    (hlength : cs.length ≤ maxTokenLength) :
    checkToken (String.ofList cs) = .ok (String.ofList cs) := by
  have hempty : (String.ofList cs).isEmpty = false := by
    simpa using hne
  unfold checkToken
  simp only [Text.trim_ofList h, hempty, Bool.false_eq_true, if_false, utf8ByteSize_ofList h]
  rw [if_neg (Nat.not_lt.mpr hlength)]

namespace Token

theorem isPlain_signed (secret : Bytes) (c : Claims) :
    ∀ d ∈ signed secret c, isPlain d = true := by
  have hdigits := Text.Base64.isPlain_encode
  intro d hd
  simp only [signed, encodeJson, signature, base64, List.mem_append, List.mem_cons] at hd
  rcases hd with (hd | rfl | hd) | rfl | hd
  · exact hdigits _ d hd
  · decide
  · exact hdigits _ d hd
  · decide
  · exact hdigits _ d hd

theorem length_digest (message : Bytes) : (Digest.Sha256.digest message).length = 32 := by
  simp [Digest.Sha256.digest, Digest.Sha256.wordBytes, Digest.Sha256.bigEndian]

theorem length_encodeJson (j : Json) :
    (encodeJson j).length = (4 * (j.render.flatMap String.utf8EncodeChar).length + 2) / 3 := by
  unfold encodeJson base64 Json.compact
  rw [Text.Base64.length_encode, Text.toBytes_ofList]

/-- A header of 36 digits, a payload and a signature of 43. -/
theorem length_signed (secret : Bytes) (c : Claims) :
    (signed secret c).length = (encodeJson c.toJson).length + 81 := by
  have hheader : (encodeJson Header.issued).length = 36 := by
    rw [length_encodeJson]
    decide
  have hmark (message : List Char) : (signature secret message).length = 43 := by
    unfold signature base64 Digest.hmac
    rw [Text.Base64.length_encode, length_digest]
  simp only [signed, List.length_append, List.length_cons, hheader, hmark]
  omega

theorem checkToken_signed {secret : Bytes} {c : Claims}
    (hlength : (encodeJson c.toJson).length + 81 ≤ maxTokenLength) :
    checkToken (String.ofList (signed secret c)) = .ok (String.ofList (signed secret c)) := by
  have hne : signed secret c ≠ [] := by
    simp [signed]
  rw [← length_signed secret] at hlength
  exact checkToken_ofList (isPlain_signed secret c) hne hlength

end Token

end Gatehouse
