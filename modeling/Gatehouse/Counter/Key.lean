/-! The keys of the counter store. Each purpose has its own opening, none of which begins another,
so keys of different purposes or names are different whatever the names contain. -/
namespace Gatehouse.Counter

inductive Key where
  | userAttempts (username : String)
  | originAttempts (origin : String)
  | userLock (username : String)
  | originBlock (origin : String)
  | originBlockLevel (origin : String)
  | revoked (jti : String)
deriving DecidableEq

def Key.opening : Key → String
  | userAttempts _ => "attempts:user:"
  | originAttempts _ => "attempts:ip:"
  | userLock _ => "lock:user:"
  | originBlock _ => "block:ip:"
  | originBlockLevel _ => "blockcount:ip:"
  | revoked _ => "blacklist:"

def Key.name : Key → String
  | userAttempts name => name
  | originAttempts name => name
  | userLock name => name
  | originBlock name => name
  | originBlockLevel name => name
  | revoked name => name

def Key.text (key : Key) : String := key.opening ++ key.name

end Gatehouse.Counter
