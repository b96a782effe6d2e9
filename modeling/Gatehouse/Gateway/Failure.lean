import Gatehouse.Error

/-! Errors as a caller of the gateway sees them: what the storage does is told as text only, and a
gateway that cannot be set up says which part is to blame. -/
namespace Gatehouse.Gateway

inductive Failure where
  | auth (cause : Error)
  | storage (reason : String)
deriving DecidableEq

namespace Failure

def ofError (e : Error) : Failure := if e.isStorage then .storage e.message else .auth e

def message : Failure → String
  | auth cause => "Auth error: " ++ cause.message
  | storage reason => "Storage error: " ++ reason

def kind : Failure → ErrorKind
  | auth cause => cause.kind
  | storage _ => .internal

end Failure

inductive SetupError where
  | storageConnection (reason : String)
  | migration (reason : String)
  | invalidConfiguration (reason : String)
  | passwordHashing (reason : String)
deriving DecidableEq

def SetupError.message : SetupError → String
  | storageConnection reason => "Storage connection failed: " ++ reason
  | migration reason => "Migration failed: " ++ reason
  | invalidConfiguration reason => "Invalid configuration: " ++ reason
  | passwordHashing reason => "Password hashing setup failed: " ++ reason

end Gatehouse.Gateway
