import Gatehouse.Credentials
import Gatehouse.Time.Timestamp

/-! Users of the directory. A user's written form never holds the password hash, and its diagnostic
text never shows it. -/
namespace Gatehouse

/-- Zero stands for no user. -/
structure UserId where
  value : UInt64
deriving DecidableEq

namespace UserId

def isValid (id : UserId) : Bool := id.value ≠ 0

def text (id : UserId) : String := toString id.value.toNat

def ofNat? (n : Nat) : Option UserId := if n < UInt64.size then some ⟨.ofNat n⟩ else none

/-- A decimal below `2^64`, with at most a plus sign in front. -/
def parse (text : String) : Except ValidationError UserId :=
  match (Text.unsigned? text.toList).bind ofNat? with
  | some id => .ok id
  | none => .error (.invalidUserId text)

end UserId

def Json.uint64? (j : Json) : Option UInt64 := do
  let n ← j.int?
  guard (0 ≤ n ∧ n < UInt64.size)
  return .ofNat n.toNat

def Json.uint64 (n : UInt64) : Json := .int n.toNat

def Json.timestamp? (j : Json) : Option Timestamp := do
  Timestamp.parse? (← j.string?).toList

def Json.timestamp (t : Timestamp) : Json := .str t.text

structure User where
  id : UserId
  username : String
  fullname : String
  email : String
  /-- The hash as it was stored when the user was looked up. -/
  passwordHash : String
  createdAt : Timestamp
  updatedAt : Timestamp
deriving DecidableEq

namespace User

def debug (u : User) : String :=
  s!"User \x7b id: UserId({u.id.text}), username: {Text.quoted u.username}, " ++
  s!"fullname: {Text.quoted u.fullname}, email: {Text.quoted u.email}, " ++
  s!"password_hash: {redacted}, created_at: {u.createdAt.text}, " ++
  s!"updated_at: {u.updatedAt.text} \x7d"

def toJson (u : User) : Json :=
  .record [("id", .uint64 u.id.value), ("username", .str u.username),
    ("fullname", .str u.fullname), ("email", .str u.email),
    ("created_at", .timestamp u.createdAt), ("updated_at", .timestamp u.updatedAt)]

/-- Reads a user; only the password hash may be missing, and is then empty. -/
def ofJson? (j : Json) : Option User := do
  match ← j.fields?
      ["id", "username", "fullname", "email", "password_hash", "created_at", "updated_at"] with
  | [id, username, fullname, email, passwordHash, createdAt, updatedAt] =>
    return {
      id := ⟨← (← id).uint64?⟩
      username := ← (← username).string?
      fullname := ← (← fullname).string?
      email := ← (← email).string?
      passwordHash := ← match passwordHash with
        | none => some ""
        | some value => value.string?
      createdAt := ← (← createdAt).timestamp?
      updatedAt := ← (← updatedAt).timestamp? }
  | _ => none

end User

structure UserDraft where
  id : Option UserId := none
  username : Option String := none
  fullname : Option String := none
  email : Option String := none
  passwordHash : Option String := none
  createdAt : Option Timestamp := none
  updatedAt : Option Timestamp := none

/-- The user that a draft describes: id, username and hash are required, names are otherwise empty,
and times are otherwise now. -/
def UserDraft.build (d : UserDraft) (now : Timestamp) : Except ValidationError User := do
  let id ← requireField "User ID" d.id
  if id.isValid then
    let username ← requireField "Username" d.username
    let passwordHash ← requireField "Password hash" d.passwordHash
    return {
      id, username, passwordHash
      fullname := d.fullname.getD ""
      email := d.email.getD ""
      createdAt := d.createdAt.getD now
      updatedAt := d.updatedAt.getD now }
  else
    .error (.invalidUserId "0")

end Gatehouse
