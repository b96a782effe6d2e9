import Gatehouse.Error
import Gatehouse.Json.Record
import Gatehouse.Text.Blank
import Gatehouse.Text.Quoted

/-! What a caller presents: a username with a password, or a token. Each has a check that trims what
may be trimmed and refuses what is malformed before any other work is done. Strength is no concern
here. -/
namespace Gatehouse

def maxUsernameLength : Nat := 64

def maxPasswordLength : Nat := 128

/-- The greatest length of a token, in bytes. -/
def maxTokenLength : Nat := 4096

def isUsernameChar (c : Char) : Bool := c.isAlphanum || ['.', '_', '@', '+', '-'].contains c

def checkUsername (text : String) : Except ValidationError String :=
  let name := Text.trim text
  if name.isEmpty then .error (.missingField "Username is required")
  else if name.length > maxUsernameLength then
    .error (.invalidUsername s!"Username must be at most {maxUsernameLength} characters")
  else if name.toList.all isUsernameChar then .ok name
  else .error (.invalidUsername "Username contains invalid characters")

/-- A password is kept as it is; blanks around it are part of it. -/
def checkPassword (text : String) : Except ValidationError Unit :=
  if text.isEmpty then .error (.missingField "Password is required")
  else if text.length > maxPasswordLength then
    .error (.invalidPassword s!"Password must be at most {maxPasswordLength} characters")
  else .ok ()

def checkToken (text : String) : Except ValidationError String :=
  let token := Text.trim text
  if token.isEmpty then .error (.missingField "Token is required")
  else if token.utf8ByteSize > maxTokenLength then .error (.invalidField "Token is too long")
  else .ok token

def redacted : String := Text.quoted "<redacted>"

structure LoginRequest where
  username : String
  password : String
deriving DecidableEq

namespace LoginRequest

def sanitize (r : LoginRequest) : Except ValidationError LoginRequest := do
  let username ← checkUsername r.username
  checkPassword r.password
  return { r with username := username }

def debug (r : LoginRequest) : String :=
  s!"LoginRequest \x7b username: {Text.quoted r.username}, password: {redacted} \x7d"

def toJson (r : LoginRequest) : Json :=
  .record [("username", .str r.username), ("password", .str r.password)]

def ofJson? (j : Json) : Option LoginRequest := do
  match ← j.allFields? ["username", "password"] with
  | [username, password] => return ⟨← username.string?, ← password.string?⟩
  | _ => none

end LoginRequest

end Gatehouse
