import Gatehouse.Digest.Hmac
import Gatehouse.Json.Reader
import Gatehouse.Json.Writer
import Gatehouse.Text.Base64
import Gatehouse.Time.Clock
import Gatehouse.Token.Header
import Gatehouse.Token.Registered

/-! Issuing and verifying tokens. A token is a header, a payload and a signature in URL-safe base64
with dots between; the signature is the HMAC of what stands before it, under the secret of the
token's kind. -/
namespace Gatehouse.Token

def base64 (bytes : Bytes) : List Char := Text.Base64.urlSafe.encode bytes

def encodeJson (j : Json) : List Char := base64 (Text.toBytes j.compact)

def signature (secret : Bytes) (message : List Char) : List Char :=
  base64 (Digest.hmac secret (Text.toBytes (String.ofList message)))

def signed (secret : Bytes) (claims : Claims) : List Char :=
  let message := encodeJson Header.issued ++ '.' :: encodeJson claims.toJson
  message ++ '.' :: signature secret message

/-- The token of a kind for a user; there is none if it would expire outside the supported years. -/
def issue (c : Config) (kind : Kind) (user : UserId) (jti : String) (now : Timestamp) :
    Option Issued := do
  let expiresAt ← now.shift? (c.lifetime kind)
  let claims : Claims := {
    subject := user.text
    jti
    issuedAt := .ofInt now.seconds
    expires := .ofInt expiresAt.seconds
    issuer := c.issuer
    kind }
  return ⟨String.ofList (signed (c.secret kind) claims), jti, expiresAt⟩

def issuePair (c : Config) (user : UserId) (accessJti refreshJti : String) (now : Timestamp) :
    Option (Issued × Issued) := do
  return (← issue c .access user accessJti now, ← issue c .refresh user refreshJti now)

def splitLastDot (cs : List Char) : Option (List Char × List Char) :=
  let after := cs.reverse.takeWhile (· ≠ '.')
  match cs.reverse.drop after.length with
  | _ :: before => some (before.reverse, after.reverse)
  | [] => none

def decodeJson? (cs : List Char) : Option Json := do
  Json.ofBytes? (← Text.Base64.urlSafe.decode? cs)

def open? (secret : Bytes) (token : List Char) : Option Claims := do
  let (message, mark) ← splitLastDot token
  let (header, payload) ← splitLastDot message
  guard (mark = signature secret message)
  guard (Header.isValid (← decodeJson? header))
  let payload ← decodeJson? payload
  let claims ← Claims.ofJson? payload
  guard (Registered.passes payload)
  return claims

def verify (c : Config) (kind : Kind) (token : String) (second : Int) : Except Error Claims :=
  match open? (c.secret kind) token.toList with
  | some claims =>
    if 0 ≤ claims.expires.toInt ∧ second ≤ claims.expires.toInt ∧ claims.issuer = c.issuer ∧
        claims.kind = kind then
      .ok claims
    else .error .tokenInvalid
  | none => .error .tokenInvalid

end Gatehouse.Token
