import Gatehouse.Text.Bytes
import Gatehouse.Text.Quoted

/-! Why the database refuses a statement. Every refusal has a code and a text, apart from those that
keep a statement from reaching the database at all. -/
namespace Gatehouse.Database

inductive Fault where
  | closed
  | unknownValue (parameter value : String)
  | unknownParameter (parameter : String)
  | unreadableName (flaw : Text.Flaw)
  | nulInName
  | unknownAuthority (authority : String)
  | unknownAccess (kind name : String)
  | forbiddenAccess (name : String)
  | unknownDriver (name : String)
  | cannotOpen
  | cannotRead
  | readOnly
  | full
  | misplaced (token : String)
  | unknownToken (token : String)
  | incomplete
  | internalName (name : String)
  | unknownPlace (name : String)
  | cannotDrop (name : String)
  | noSuchTable (name : String)
  | noSuchColumn (name : String)
  | noColumnInTable (table column : String)
  | tableExists (name : String)
  | indexInTheWay (name : String)
  | tableInTheWay (name : String)
  | keyMismatch (child parent : String)
  | foreignKey
  | notUnique (column : String)
deriving DecidableEq

namespace Fault

def refusal (code : Nat) (reason : String) : String :=
  s!"error returned from database: (code: {code}) {reason}"

def misconfigured (reason : String) : String := s!"error with configuration: {reason}"

def flawText : Text.Flaw → String
  | ⟨index, some length⟩ => s!"invalid utf-8 sequence of {length} bytes from index {index}"
  | ⟨index, none⟩ => s!"incomplete utf-8 byte sequence from index {index}"

def text : Fault → String
  | closed => "attempted to acquire a connection on a closed pool"
  | unknownValue parameter value =>
    misconfigured ("unknown value " ++ Text.quoted value ++ " for `" ++ parameter ++ "`")
  | unknownParameter parameter => misconfigured
    ("unknown query parameter `" ++ parameter ++ "` while parsing connection URL")
  | unreadableName flaw => misconfigured (flawText flaw)
  | nulInName =>
    "error communicating with database: filename passed to SQLite must not contain nul bytes"
  | unknownAuthority authority => refusal 1 s!"invalid uri authority: {authority}"
  | unknownAccess kind name => refusal 1 s!"no such {kind} mode: {name}"
  | forbiddenAccess name => refusal 3 s!"access mode not allowed: {name}"
  | unknownDriver name => refusal 1 s!"no such vfs: {name}"
  | cannotOpen => refusal 14 "unable to open database file"
  | cannotRead => refusal 266 "disk I/O error"
  | readOnly => refusal 8 "attempt to write a readonly database"
  | full => refusal 13 "database or disk is full"
  | misplaced token => refusal 1 ("near \"" ++ token ++ "\": syntax error")
  | unknownToken token => refusal 1 ("unrecognized token: \"" ++ token ++ "\"")
  | incomplete => refusal 1 "incomplete input"
  | internalName name => refusal 1 s!"object name reserved for internal use: {name}"
  | unknownPlace name => refusal 1 s!"unknown database {name}"
  | cannotDrop name => refusal 1 s!"table {name} may not be dropped"
  | noSuchTable name => refusal 1 s!"no such table: {name}"
  | noSuchColumn name => refusal 1 s!"no such column: {name}"
  | noColumnInTable table column => refusal 1 s!"table {table} has no column named {column}"
  | tableExists name => refusal 1 s!"table {name} already exists"
  | indexInTheWay name => refusal 1 s!"there is already an index named {name}"
  | tableInTheWay name => refusal 1 s!"there is already a table named {name}"
  | keyMismatch child parent =>
    refusal 1 ("foreign key mismatch - " ++ "\"" ++ child ++ "\" referencing \"" ++ parent ++ "\"")
  | foreignKey => refusal 787 "FOREIGN KEY constraint failed"
  | notUnique column => refusal 2067 s!"UNIQUE constraint failed: {column}"

end Fault

end Gatehouse.Database
