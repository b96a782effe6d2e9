import Gatehouse.Service.Basic

/-! Logging in. Every attempt that gets past its checks compares exactly one password, against the
stored hash or the stand-in, and a rejected one gives the same error whatever the reason was. -/
namespace Gatehouse

structure LoginResponse where
  user : User
  tokens : Token.Pair
deriving DecidableEq

namespace LoginResponse

def toJson (r : LoginResponse) : Json :=
  .record [("user", r.user.toJson), ("tokens", r.tokens.toJson)]

def ofJson? (j : Json) : Option LoginResponse := do
  match ← j.allFields? ["user", "tokens"] with
  | [user, tokens] => return ⟨← User.ofJson? user, ← Token.Pair.ofJson? tokens⟩
  | _ => none

end LoginResponse

namespace Service

structure Attempt where
  verdict : Except Error User
  /-- The password and the candidate that were compared, if it came to that. -/
  compared : Option (String × Candidate)
  job : Option Bookkeeping

def Attempt.stopped (e : Error) : Attempt := ⟨.error e, none, none⟩

/-- A locked username is compared with the stand-in, as is one that nobody has. -/
def candidate (user : Option User) (locked : Bool) : Candidate :=
  match user with
  | some user => if locked then .dummy else .stored user.passwordHash
  | none => .dummy

def judge (verifier : Verifier) (request : LoginRequest) (origin : String) (user : Option User)
    (locked blocked : Bool) : Attempt :=
  let candidate := candidate user locked
  let compared := some (request.password, candidate)
  let failure := some (Bookkeeping.failure request.username origin)
  match verifier request.password candidate with
  | .error e =>
    if e = .invalidCredentials then ⟨.error .invalidCredentials, compared, failure⟩
    else ⟨.error e, compared, failure⟩
  | .ok () =>
    match user with
    | some user =>
      if locked ∨ blocked then ⟨.error .invalidCredentials, compared, failure⟩
      else ⟨.ok user, compared, some (.success request.username origin)⟩
    | none => ⟨.error .invalidCredentials, compared, failure⟩

/-- An attempt to log in. Both counters are read before either's error is acted upon. -/
def attempt (settings : Settings) (around : Surroundings) (request : LoginRequest)
    (origin : String) : Counter.Action Attempt := do
  match request.sanitize with
  | .error e => return .stopped (.validation e)
  | .ok request =>
    let locked ← (Guard.isUserLocked settings.guard request.username).attempt
    let block ← (Guard.originBlock settings.guard origin).attempt
    match locked, block with
    | .error e, _ => return .stopped e
    | _, .error e => return .stopped e
    | .ok locked, .ok block =>
      match around.directory.byUsername request.username with
      | .error e => return .stopped e
      | .ok user => return judge around.verifier request origin user locked block.blocked

structure Login where
  answer : Except Refusal LoginResponse
  compared : Option (String × Candidate)

namespace State

/-- Logs a user in. The change of the counters is handed to the pool before tokens are issued. -/
def login (s : State) (settings : Settings) (around : Surroundings) (request : LoginRequest)
    (origin : String) : Login × State :=
  let (outcome, s) := s.run around (attempt settings around request origin)
  match outcome with
  | .error e => (⟨.error (.error e), none⟩, s)
  | .ok attempt =>
    let s := s.submit attempt.job
    match attempt.verdict with
    | .error e => (⟨.error (.error e), attempt.compared⟩, s)
    | .ok user =>
      let (tokens, s) := s.issuePair settings around user.id
      (⟨tokens.map fun tokens => ⟨user, tokens⟩, attempt.compared⟩, s)

end State

end Service

end Gatehouse
