import Gatehouse.Service.Basic

/-! What a holder of tokens may ask for: new tokens, the end of the session, and the proof of who is
calling. Whatever is wrong with a presented token, the answer is that it is invalid. -/
namespace Gatehouse.Service

open Counter (Action)

def verified (settings : Settings) (around : Surroundings) (kind : Token.Kind) (token : String) :
    Except Error Token.Claims :=
  match checkToken token with
  | .ok token => Token.verify settings.tokens kind token around.clock.second
  | .error _ => .error .tokenInvalid

def accepted (settings : Settings) (around : Surroundings) (kind : Token.Kind) (token : String) :
    Action Token.Claims := do
  let claims ← verified settings around kind token
  if ← Revocation.isRevoked claims.jti then throw .tokenInvalid
  return claims

def revoke (around : Surroundings) (claims : Token.Claims) : Action Unit :=
  Revocation.revoke claims.jti (claims.remainingLifetime around.clock)

def authenticate (settings : Settings) (around : Surroundings) (token : String) :
    Action Token.Claims :=
  accepted settings around .access token

/-- The user to whom a refresh token still entitles; under rotation the token is used up. -/
def redeem (settings : Settings) (around : Surroundings) (token : String) : Action UserId := do
  let claims ← accepted settings around .refresh token
  let id ← (claims.userId.mapError fun _ => Error.tokenInvalid : Except Error UserId)
  match ← around.directory.byId id with
  | none => throw .tokenInvalid
  | some user =>
    if settings.rotate then revoke around claims
    return user.id

/-- Ends a session. Revoking is done as far as it goes: a store that fails does not change the
answer, and a refresh token that is invalid leaves only the access token revoked. -/
def logout (settings : Settings) (around : Surroundings) (access : Token.Claims)
    (refresh : String) : Action Unit := do
  if access.kind ≠ .access then throw .tokenInvalid
  let _ ← (revoke around access).attempt
  match verified settings around .refresh refresh with
  | .error _ => return
  | .ok claims =>
    if claims.subject ≠ access.subject then throw (.token .mismatch)
    let _ ← (revoke around claims).attempt

def State.refresh (s : State) (settings : Settings) (around : Surroundings) (token : String) :
    Except Refusal Token.Pair × State :=
  match s.run around (redeem settings around token) with
  | (.error e, s) => (.error (.error e), s)
  | (.ok id, s) => s.issuePair settings around id

end Gatehouse.Service
