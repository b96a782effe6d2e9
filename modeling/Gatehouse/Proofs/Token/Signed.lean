import Gatehouse.Proofs.Json.Reading
import Gatehouse.Proofs.Text.Base64
import Gatehouse.Token.Issuer

/-! A signed token opens under the secret that it was signed with, and shows the claims that went
in. -/
namespace Gatehouse

theorem Json.int64?_int (n : Int64) : (Json.int n.toInt).int64? = some n := by
  have hrange : -0x8000000000000000 ≤ n.toInt ∧ n.toInt < 0x8000000000000000 :=
    ⟨n.le_toInt, n.toInt_lt⟩
  simp only [Json.int64?, Json.int, Json.int?, Json.int?_ofInt, guard]
  rw [Option.bind_eq_bind, Option.bind_some, if_pos hrange]
  exact congrArg some (Int64.ofInt_toInt n)

namespace Token

theorem Kind.ofJson?_toJson (kind : Kind) : Kind.ofJson? kind.toJson.reread = some kind := by
  cases kind <;> decide

namespace Claims

theorem isIntegral_toJson (c : Claims) : c.toJson.IsIntegral :=
  ⟨trivial, trivial, ⟨_, rfl⟩, ⟨_, rfl⟩, trivial, trivial, trivial⟩

/-- The payload of a token as it is read. -/
theorem reread_toJson (c : Claims) :
    c.toJson.reread = .object [
      (Json.written "sub", .text (Json.written c.subject)),
      (Json.written "jti", .text (Json.written c.jti)),
      (Json.written "iat", .int c.issuedAt.toInt),
      (Json.written "exp", .int c.expires.toInt),
      (Json.written "iss", .text (Json.written c.issuer)),
      (Json.written "typ", c.kind.toJson.reread)] := rfl

theorem ofJson?_toJson (c : Claims) : ofJson? c.toJson.reread = some c := by
  have hfields : Json.allFields? ["sub", "jti", "iat", "exp", "iss", "typ"] c.toJson.reread =
      some [.text (Json.written c.subject), .text (Json.written c.jti), .int c.issuedAt.toInt,
        .int c.expires.toInt, .text (Json.written c.issuer), c.kind.toJson.reread] := by
    rw [reread_toJson]
    simp [Json.allFields?, Json.fields?, Json.field?]
  unfold ofJson?
  rw [hfields]
  simp [Json.string?, Json.int64?_int, Kind.ofJson?_toJson]

theorem passes_toJson (c : Claims) : Registered.passes c.toJson.reread = true := by
  rw [reread_toJson]
  simp [Registered.passes, Json.field?, Registered.notBeforePasses, Registered.audiencePasses]

end Claims

theorem isIntegral_issued : Header.issued.IsIntegral := ⟨trivial, trivial, trivial⟩

theorem isValid_issued : Header.isValid Header.issued.reread = true := by
  decide

theorem splitLastDot_append {after : List Char} (h : '.' ∉ after) (before : List Char) :
    splitLastDot (before ++ '.' :: after) = some (before, after) := by
  have hreverse : (before ++ '.' :: after).reverse = after.reverse ++ '.' :: before.reverse := by
    simp
  have hafter : ∀ c ∈ after.reverse, decide (c ≠ '.') = true := by
    intro c hc
    have hmem : c ∈ after := List.mem_reverse.mp hc
    exact decide_eq_true fun heq => h (heq ▸ hmem)
  have htake : (after.reverse ++ '.' :: before.reverse).takeWhile (· ≠ '.') = after.reverse := by
    rw [List.takeWhile_append_of_pos hafter]
    simp
  unfold splitLastDot
  rw [hreverse]
  simp only [htake, List.drop_left, List.reverse_reverse]

theorem dot_notMem_base64 (bytes : Bytes) : '.' ∉ base64 bytes :=
  Text.Base64.dot_notMem_encode bytes

theorem decodeJson?_encodeJson (j : Json) (hj : j.IsIntegral) :
    decodeJson? (encodeJson j) = some j.reread := by
  unfold decodeJson? encodeJson base64
  rw [Text.Base64.decode?_encode]
  exact Json.ofBytes?_toBytes_compact j hj

theorem open?_signed (secret : Bytes) (c : Claims) : open? secret (signed secret c) = some c := by
  have hmark : '.' ∉ signature secret (encodeJson Header.issued ++ '.' :: encodeJson c.toJson) :=
    dot_notMem_base64 _
  have hpayload : '.' ∉ encodeJson c.toJson := dot_notMem_base64 _
  have hheader := decodeJson?_encodeJson _ isIntegral_issued
  have hclaims := decodeJson?_encodeJson _ c.isIntegral_toJson
  simp only [open?, signed, splitLastDot_append hmark, splitLastDot_append hpayload,
    Option.bind_eq_bind, Option.bind_some, hheader, hclaims, Claims.ofJson?_toJson]
  simp [guard, isValid_issued, Claims.passes_toJson]

end Token

end Gatehouse
