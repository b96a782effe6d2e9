import Gatehouse.Argon2.Encoded
import Gatehouse.Error
import Gatehouse.Text.Bytes

/-! Comparing and hashing passwords. Whatever keeps a comparison from succeeding, be it another
password, a hash that cannot be read or the lack of one, gives the same error. -/
namespace Gatehouse

/-- What a presented password is compared with: a stored hash, or a stand-in that nothing matches.
-/
inductive Candidate where
  | stored (hash : String)
  | dummy
deriving DecidableEq

abbrev Verifier := String → Candidate → Except Error Unit

namespace Password

def isMatch (password hash : String) : Bool :=
  match Argon2.Encoded.parse? hash with
  | some encoded => encoded.matchesPassword (Text.toBytes password)
  | none => false

def verify : Verifier
  | password, .stored hash => if isMatch password hash then .ok () else .error .invalidCredentials
  | _, .dummy => .error .invalidCredentials

def hash (salt : Bytes) (password : String) : String :=
  (Argon2.Encoded.ofPassword salt (Text.toBytes password)).render

def saltLength : Nat := 16

def shape (hash : String) : String :=
  match (hash.splitOn "$").reverse with
  | tag :: salt :: fields =>
    "$".intercalate (fields.reverse ++ [s!"<{salt.length}>", s!"<{tag.length}>"])
  | _ => hash

end Password

end Gatehouse
