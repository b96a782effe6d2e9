import Gatehouse.Command.Arguments
import Gatehouse.Credentials
import Gatehouse.Database.Accounts
import Gatehouse.Database.Disk
import Gatehouse.Database.Layout
import Gatehouse.Json.Pretty
import Gatehouse.Password

/-! What the command line does. Names and passwords are checked before the database is opened, and a
failure is told in one line. -/
namespace Gatehouse.Command

open Database (Disk)

inductive Output where
  | nothing
  | text (line : String)
  | hash (line : String)
  | user (u : User)

namespace Output

def render : Output → String
  | nothing => ""
  | text line | hash line => line
  | user u => u.toJson.pretty

end Output

structure Outcome where
  code : Nat
  output : Output
  failure : Option String

namespace Outcome

def success (output : Output) : Outcome := ⟨0, output, none⟩

def failed (reason : String) : Outcome := ⟨1, .nothing, some reason⟩

def ofStop : Stop → Outcome
  | .help => ⟨0, .nothing, none⟩
  | .version => ⟨0, .text "portcullis 0.1.0", none⟩
  | .unusable => ⟨2, .nothing, none⟩

def ofExcept (output : α → Output) : Except Error α → Outcome
  | .ok value => success (output value)
  | .error e => failed e.message

end Outcome

def versionLine : String := "Portcullis v0.1.0"

def Invocation.file? (i : Invocation) : Option String :=
  match i.job with
  | .migrate | .seedUser .. =>
    (Database.Location.parse i.databaseUrl >>= Database.Location.target).toOption.bind (·.path)
  | .hashPassword _ | .version => none

def withDatabase (disk : Disk) (url : String) (use : Database → Outcome × Database) :
    Outcome × Disk :=
  match Database.Location.parse url >>= disk.connect with
  | .error fault => (.failed (Error.storage (.connection fault.text)).message, disk)
  | .ok (path, db) =>
    let (outcome, db) := use db
    (outcome, disk.save path db)

def checkSeed (username password : String) : Except ValidationError String := do
  let name ← checkUsername username
  checkPassword password
  return name

def perform (i : Invocation) (disk : Disk) (second : Int) (salt : Bytes) : Outcome × Disk :=
  match i.job with
  | .version => (.success (.text versionLine), disk)
  | .hashPassword password => (.success (.hash (Password.hash salt password)), disk)
  | .migrate => withDatabase disk i.databaseUrl fun db =>
      let (outcome, db) := Database.Layout.migrate second db
      (.ofExcept (fun _ => .nothing) outcome, db)
  | .seedUser username password fullname email =>
    match checkSeed username password with
    | .error e => (.failed e.message, disk)
    | .ok name => withDatabase disk i.databaseUrl fun db =>
        let user := ⟨name, Password.hash salt password, fullname, email⟩
        let (outcome, db) := (Database.Accounts.createUser user second).run db
        (.ofExcept .user outcome, db)

def run (environment : String → Option String) (words : List String) (disk : Disk) (second : Int)
    (salt : Bytes) : Outcome × Disk :=
  match parse environment words with
  | .ok i => perform i disk second salt
  | .error stop => (.ofStop stop, disk)

end Gatehouse.Command
