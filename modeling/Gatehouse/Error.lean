/-! What can go wrong, by cause. Every error has one message and one kind; the kind is all that a
caller outside the service is told. -/
namespace Gatehouse

inductive AuthError where
  | invalidCredentials
  | userNotFound
  | permissionDenied (reason : String)
deriving DecidableEq

inductive TokenError where
  | invalid
  | mismatch
  | signing (reason : String)
deriving DecidableEq

inductive StorageError where
  | database (reason : String)
  | migration (reason : String)
  | connection (reason : String)
  | counter (reason : String)
  | notFound
  | constraint (reason : String)
deriving DecidableEq

inductive ValidationError where
  | invalidUsername (reason : String)
  | invalidPassword (reason : String)
  | invalidUserId (text : String)
  | invalidField (reason : String)
  | missingField (reason : String)
deriving DecidableEq

inductive CryptoError where
  | passwordHash (reason : String)
  | task (reason : String)
deriving DecidableEq

inductive Error where
  | auth (cause : AuthError)
  | token (cause : TokenError)
  | storage (cause : StorageError)
  | validation (cause : ValidationError)
  | crypto (cause : CryptoError)
deriving DecidableEq

inductive ErrorKind where
  | invalidCredentials
  | tokenInvalid
  | tokenMismatch
  | permissionDenied
  | invalidRequest
  | internal
deriving DecidableEq

def AuthError.message : AuthError → String
  | invalidCredentials => "Invalid username or password"
  | userNotFound => "User not found"
  | permissionDenied reason => "Permission denied: " ++ reason

def TokenError.message : TokenError → String
  | invalid => "Invalid token"
  | mismatch => "Token mismatch"
  | signing reason => "Token signing failed: " ++ reason

def StorageError.message : StorageError → String
  | database reason => "Database error: " ++ reason
  | migration reason => "Migration error: " ++ reason
  | connection reason => "Connection error: " ++ reason
  | counter reason => "Counter store error: " ++ reason
  | notFound => "Record not found"
  | constraint reason => "Constraint violation: " ++ reason

def ValidationError.message : ValidationError → String
  | invalidUsername reason => "Invalid username: " ++ reason
  | invalidPassword reason => "Invalid password: " ++ reason
  | invalidUserId text => "Invalid user ID: " ++ text
  | invalidField reason => "Invalid field: " ++ reason
  | missingField reason => "Missing required field: " ++ reason

def CryptoError.message : CryptoError → String
  | passwordHash reason => "Password hashing failed: " ++ reason
  | task reason => "Background task failed: " ++ reason

namespace Error

def message : Error → String
  | auth cause => "Authentication error: " ++ cause.message
  | token cause => "Token error: " ++ cause.message
  | storage cause => "Storage error: " ++ cause.message
  | validation cause => "Validation error: " ++ cause.message
  | crypto cause => "Cryptographic error: " ++ cause.message

/-- An unknown user is a missing permission to the caller; a failed signature, store or hash is
internal. -/
def kind : Error → ErrorKind
  | auth .invalidCredentials => .invalidCredentials
  | auth .userNotFound => .permissionDenied
  | auth (.permissionDenied _) => .permissionDenied
  | token .invalid => .tokenInvalid
  | token .mismatch => .tokenMismatch
  | token (.signing _) => .internal
  | storage _ => .internal
  | validation _ => .invalidRequest
  | crypto _ => .internal

def isStorage : Error → Bool
  | storage _ => true
  | _ => false

def tokenInvalid : Error := .token .invalid

def invalidCredentials : Error := .auth .invalidCredentials

def databaseFailure (reason : String) (context : Option String) : Error :=
  .storage (.database (match context with
    | none => reason
    | some context => context ++ ": " ++ reason))

end Error

def requireField (name : String) : Option α → Except ValidationError α
  | some value => .ok value
  | none => .error (.missingField (name ++ " is required"))

end Gatehouse
