/-! The arguments of the command line. A word that is out of place makes them unusable; asking for
help or for the version ends the reading at once. -/
namespace Gatehouse.Command

inductive Job where
  | migrate
  | hashPassword (password : String)
  | seedUser (username password fullname email : String)
  | version
deriving DecidableEq

structure Invocation where
  databaseUrl : String
  job : Job
deriving DecidableEq

inductive Stop where
  | help
  | version
  | unusable
deriving DecidableEq

/-- The jobs by name, with the options that each has besides the database. -/
def jobs : List (String × List String) := [
  ("migrate", []),
  ("hash-password", ["password"]),
  ("seed-user", ["username", "password", "fullname", "email"]),
  ("version", [])]

def databaseOption : String := "db-url"

def databaseSetting : String := "PORTCULLIS_DATABASE_URL"

def passwordSetting : String := "PORTCULLIS_PASSWORD"

def defaultDatabase : String := "sqlite://portcullis.db?mode=rwc"

structure Reading where
  job : Option String
  options : List String
  /-- The options given so far, since the job was named if it has been. -/
  given : List (String × String)
  /-- The options given before the job was named. -/
  outer : List (String × String)
  /-- The option whose value is the next word. -/
  awaiting : Option String
  /-- Whether a double dash has ended the options. -/
  ended : Bool

namespace Reading

def start : Reading := ⟨none, [databaseOption], [], [], none, false⟩

/-- An option with its value, which may be given once before the job and once after it. -/
def give (r : Reading) (name value : String) : Except Stop Reading :=
  if (r.given.lookup name).isSome then .error .unusable
  else .ok { r with given := (name, value) :: r.given, awaiting := none }

def enter (r : Reading) (word : String) (rest : List String) : Except Stop Reading :=
  match r.job, jobs.lookup word with
  | none, some options => .ok { r with
      job := some word
      options := databaseOption :: options
      given := []
      outer := r.given }
  | none, none =>
    if word = "help" ∧ (rest = [] ∨
        (rest.length = 1 ∧ ("help" :: jobs.map Prod.fst).contains (rest.headD ""))) then
      .error .help
    else .error .unusable
  | some _, _ => .error .unusable

def long (r : Reading) (word : List Char) : Except Stop Reading :=
  let name := String.ofList (word.takeWhile (· ≠ '='))
  let value := word.dropWhile (· ≠ '=')
  if r.options.contains name then
    match value with
    | [] =>
      if (r.given.lookup name).isSome then .error .unusable
      else .ok { r with awaiting := some name }
    | _ :: value => r.give name (String.ofList value)
  else if value = [] ∧ name = "help" then .error .help
  else if value = [] ∧ name = "version" ∧ r.job = none then .error .version
  else .error .unusable

def short (r : Reading) (word : List Char) : Except Stop Reading :=
  match word with
  | 'h' :: _ => .error .help
  | 'V' :: _ => .error (if r.job = none then .version else .unusable)
  | _ => .error .unusable

def step (r : Reading) (word : String) (rest : List String) : Except Stop Reading :=
  match r.awaiting, word.toList with
  | some name, cs =>
    if cs.head? = some '-' ∧ cs ≠ ['-'] then .error .unusable else r.give name word
  | none, '-' :: '-' :: [] => if r.ended then .error .unusable else .ok { r with ended := true }
  | none, '-' :: '-' :: cs => if r.ended then .error .unusable else r.long cs
  | none, '-' :: c :: cs => if r.ended then .error .unusable else r.short (c :: cs)
  | none, _ => if r.ended then .error .unusable else r.enter word rest

def read (r : Reading) : List String → Except Stop Reading
  | [] => if r.awaiting.isSome then .error .unusable else .ok r
  | word :: rest => do read (← r.step word rest) rest

end Reading

/-- The value of an option: as given after the job, else before it, else in the environment. -/
def valueOf (r : Reading) (environment : String → Option String) (name setting : String) :
    Option String :=
  r.given.lookup name <|> r.outer.lookup name <|> environment setting

def parse (environment : String → Option String) (words : List String) :
    Except Stop Invocation := do
  let r ← Reading.start.read words
  let need (value : Option String) : Except Stop String :=
    match value with
    | some value => .ok value
    | none => .error .unusable
  let password := need (valueOf r environment "password" passwordSetting)
  let job ← match r.job with
    | some "migrate" => pure Job.migrate
    | some "hash-password" => pure (.hashPassword (← password))
    | some "seed-user" =>
      pure (.seedUser (← need (r.given.lookup "username")) (← password)
        ((r.given.lookup "fullname").getD "") ((r.given.lookup "email").getD ""))
    | some "version" => pure .version
    | _ => throw .unusable
  let url := (valueOf r environment databaseOption databaseSetting).getD defaultDatabase
  return ⟨url, job⟩

end Gatehouse.Command
