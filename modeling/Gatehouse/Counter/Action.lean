import Gatehouse.Counter.Store
import Gatehouse.Error

/-! Programs that use the counter store. Any call of an operation on a key may fail; a failed call
leaves the store alone, ends the program with an error, and undoes nothing that came before it. -/
namespace Gatehouse.Counter

inductive Operation where
  | increment
  | get
  | setFlag
  | contains
  | remaining
  | delete
deriving DecidableEq

structure Context where
  now : Uptime
  fails : Operation → String → Bool

def Context.sound (now : Uptime) : Context := ⟨now, fun _ _ => false⟩

def unavailable : Error := .storage (.counter "unavailable")

abbrev Action (α : Type) := ReaderT Context (ExceptT Error (StateM Store)) α

namespace Action

def run (a : Action α) (context : Context) (store : Store) : Except Error α × Store :=
  (ReaderT.run a context).run store

def call (operation : Operation) (key : String) (f : Store → Uptime → α × Store) : Action α :=
  fun context store =>
    if context.fails operation key then (.error unavailable, store)
    else
      let (answer, store) := f store context.now
      (.ok answer, store)

def increment (key : String) (ttl : Option Span) : Action Nat :=
  call .increment key fun store now => store.increment now key ttl

def get (key : String) : Action (Option Nat) :=
  call .get key fun store now => store.get now key

def setFlag (key : String) (ttl : Span) : Action Unit :=
  call .setFlag key fun store now => ((), store.setFlag now key ttl)

def contains (key : String) : Action Bool :=
  call .contains key fun store now => store.contains now key

def remaining (key : String) : Action (Option Span) :=
  call .remaining key fun store now => store.remaining now key

def delete (key : String) : Action Bool :=
  call .delete key fun store now => store.delete now key

/-- Runs a program to its end and hands its error on as a value. -/
def attempt (a : Action α) : Action (Except Error α) :=
  fun context store =>
    let (answer, store) := a.run context store
    (.ok answer, store)

end Action

end Gatehouse.Counter
