import Gatehouse.Counter.Action
import Gatehouse.Counter.Key

/-! Revoked tokens, by their id. An entry lasts until the instant at which its token expires. -/
namespace Gatehouse.Revocation

open Counter (Action Key)

/-- Revokes a token for its remaining lifetime in nanoseconds. A token without an id cannot be
revoked, and one that has expired need not be. -/
def revoke (jti : String) (lifetime : Int) : Action Unit :=
  if jti.isEmpty ∨ lifetime ≤ 0 then return
  else Action.setFlag (Key.revoked jti).text (.ofNanos lifetime.toNat)

def isRevoked (jti : String) : Action Bool :=
  if jti.isEmpty then return false else Action.contains (Key.revoked jti).text

end Gatehouse.Revocation
