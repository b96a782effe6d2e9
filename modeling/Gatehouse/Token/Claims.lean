import Gatehouse.Token.Config
import Gatehouse.Time.Clock
import Gatehouse.User.Basic

/-! The claims that a token carries, and the pair of tokens that a caller is given, with their JSON
forms. -/
namespace Gatehouse

def Json.int64? (j : Json) : Option Int64 := do
  let n ← j.int?
  guard (-0x8000000000000000 ≤ n ∧ n < 0x8000000000000000)
  return .ofInt n

/-- The name of an alternative: a string, or an object whose only member is that name with null. -/
def Json.variant? : Json → Option String
  | .text name => name.text?
  | .object [(name, .null)] => name.text?
  | _ => none

namespace Token

def Kind.toJson (kind : Kind) : Json := .str kind.text

def Kind.ofJson? (j : Json) : Option Kind := do
  match ← j.variant? with
  | "access" => some access
  | "refresh" => some refresh
  | _ => none

structure Claims where
  subject : String
  jti : String
  issuedAt : Int64
  expires : Int64
  issuer : String
  kind : Kind
deriving DecidableEq

namespace Claims

def toJson (c : Claims) : Json :=
  .record [("sub", .str c.subject), ("jti", .str c.jti), ("iat", .int c.issuedAt.toInt),
    ("exp", .int c.expires.toInt), ("iss", .str c.issuer), ("typ", c.kind.toJson)]

def ofJson? (j : Json) : Option Claims := do
  match ← j.allFields? ["sub", "jti", "iat", "exp", "iss", "typ"] with
  | [sub, jti, iat, exp, iss, typ] =>
    return ⟨← sub.string?, ← jti.string?, ← iat.int64?, ← exp.int64?, ← iss.string?,
      ← Kind.ofJson? typ⟩
  | _ => none

def userId (c : Claims) : Except Error UserId :=
  (UserId.parse c.subject).mapError .validation

/-- The instant of expiry; one outside the supported years counts as the earliest instant. -/
def expiresAt (c : Claims) : Timestamp :=
  (Timestamp.ofSeconds? c.expires.toInt).getD .earliest

/-- Nanoseconds until expiry, negative afterwards. -/
def remainingLifetime (c : Claims) (clock : Clock) : Int :=
  c.expiresAt.toNanos - clock.wallNanos

end Claims

structure Issued where
  text : String
  jti : String
  expiresAt : Timestamp

structure Pair where
  access : String
  accessExpiresAt : Timestamp
  refresh : String
  refreshExpiresAt : Timestamp
  type : String
deriving DecidableEq

namespace Pair

def ofIssued (access refresh : Issued) : Pair :=
  ⟨access.text, access.expiresAt, refresh.text, refresh.expiresAt, "Bearer"⟩

def toJson (p : Pair) : Json :=
  .record [("access_token", .str p.access),
    ("access_token_expires_at", .timestamp p.accessExpiresAt),
    ("refresh_token", .str p.refresh),
    ("refresh_token_expires_at", .timestamp p.refreshExpiresAt),
    ("token_type", .str p.type)]

def ofJson? (j : Json) : Option Pair := do
  match ← j.allFields? ["access_token", "access_token_expires_at", "refresh_token",
      "refresh_token_expires_at", "token_type"] with
  | [access, accessExpiresAt, refresh, refreshExpiresAt, type] =>
    return ⟨← access.string?, ← accessExpiresAt.timestamp?, ← refresh.string?,
      ← refreshExpiresAt.timestamp?, ← type.string?⟩
  | _ => none

end Pair

end Token

end Gatehouse
