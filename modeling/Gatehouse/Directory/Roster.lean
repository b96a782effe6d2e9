import Gatehouse.Directory.Basic

/-! A directory that is held in memory. Users are kept by id, and access is kept apart from users.
-/
namespace Gatehouse

inductive Lookup where
  | byUsername
  | byId
  | access
deriving DecidableEq

structure Roster where
  users : Std.ExtTreeMap UInt64 User
  access : Std.ExtTreeMap UInt64 UserAccess
  down : List Lookup

namespace Roster

def empty : Roster := ⟨∅, ∅, []⟩

def add (r : Roster) (user : User) : Roster :=
  { r with users := r.users.insert user.id.value user }

def remove (r : Roster) (id : UserId) : Bool × Roster :=
  (r.users.contains id.value, { r with users := r.users.erase id.value })

def setAccess (r : Roster) (access : UserAccess) : Roster :=
  { r with access := r.access.insert access.userId.value access }

def answer {α : Type} (r : Roster) (lookup : Lookup) (value : α) : Except Error α :=
  if r.down.contains lookup then .error (.databaseFailure "directory down" none) else .ok value

/-- The directory; of several users with one name the lowest id is found. -/
def directory (r : Roster) : Directory where
  byUsername name := r.answer .byUsername
    ((r.users.toList.find? fun entry => entry.2.username = name).map Prod.snd)
  byId id := r.answer .byId r.users[id.value]?
  access id := r.answer .access r.access[id.value]?

end Roster

end Gatehouse
