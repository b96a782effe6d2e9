import Gatehouse.Error
import Gatehouse.Text.Bytes
import Gatehouse.Text.Quoted
import Gatehouse.Credentials
import Gatehouse.Time.Span

/-! The settings of token issuing. Access and refresh tokens have secrets of their own, which are
long enough and differ. -/
namespace Gatehouse.Token

inductive Kind where
  | access
  | refresh
deriving DecidableEq

def Kind.text : Kind → String
  | access => "access"
  | refresh => "refresh"

def minSecretLength : Nat := 32

structure Config where
  accessSecret : Bytes
  refreshSecret : Bytes
  /-- Lifetimes in nanoseconds. -/
  accessLifetime : Int
  refreshLifetime : Int
  issuer : String
  access_long : minSecretLength ≤ accessSecret.length
  refresh_long : minSecretLength ≤ refreshSecret.length
  secrets_ne : accessSecret ≠ refreshSecret

namespace Config

def defaultIssuer : String := "portcullis"

/-- The settings for two secrets: a quarter of an hour for access, a week for refresh. -/
def ofSecrets (access refresh : Bytes) : Except Error Config :=
  if hAccess : minSecretLength ≤ access.length then
    if hRefresh : minSecretLength ≤ refresh.length then
      if hne : access ≠ refresh then
        .ok {
          accessSecret := access
          refreshSecret := refresh
          accessLifetime := 900 * nanosPerSecond
          refreshLifetime := 604800 * nanosPerSecond
          issuer := defaultIssuer
          access_long := hAccess
          refresh_long := hRefresh
          secrets_ne := hne }
      else
        .error (.validation (.invalidField "Access and refresh token secrets must differ"))
    else
      .error (.validation (.invalidField
        s!"Refresh token secret must be at least {minSecretLength} bytes"))
  else
    .error (.validation (.invalidField
      s!"Access token secret must be at least {minSecretLength} bytes"))

def secret (c : Config) : Kind → Bytes
  | .access => c.accessSecret
  | .refresh => c.refreshSecret

def lifetime (c : Config) : Kind → Int
  | .access => c.accessLifetime
  | .refresh => c.refreshLifetime

/-- A signed length of time as diagnostics show it: seconds rounded down and nanoseconds. -/
def lifetimeDebug (nanos : Int) : String :=
  s!"TimeDelta \x7b secs: {nanos / nanosPerSecond}, nanos: {nanos % nanosPerSecond} \x7d"

def debug (c : Config) : String :=
  s!"TokenConfig \x7b access_secret: {redacted}, refresh_secret: {redacted}, " ++
  s!"access_ttl: {lifetimeDebug c.accessLifetime}, " ++
  s!"refresh_ttl: {lifetimeDebug c.refreshLifetime}, issuer: {Text.quoted c.issuer} \x7d"

end Config

end Gatehouse.Token
