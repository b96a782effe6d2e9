import Gatehouse.Directory.Basic
import Gatehouse.Guard.Basic
import Gatehouse.Password
import Gatehouse.Pool.Basic
import Gatehouse.Revocation
import Gatehouse.Token.Issuer

/-! The service: its settings, the surroundings of a call and the state that calls leave behind.
Changes of the failure counters are left to the pool and made when the pool is drained. -/
namespace Gatehouse

inductive Bookkeeping where
  | failure (username origin : String)
  | success (username origin : String)
deriving DecidableEq

namespace Bookkeeping

/-- Makes the change. Nobody waits for it, so an error has no one to go to. -/
def run (guard : Guard.Config) : Bookkeeping → Counter.Action Unit
  | failure username origin => do
    let _ ← Guard.recordFailure guard username origin
  | success username origin => do
    let _ ← (Guard.clearOnSuccess guard username origin).attempt

end Bookkeeping

/-- Why a call has no answer: an error to report, or an expiry beyond the supported years. -/
inductive Refusal where
  | error (cause : Error)
  | beyondCalendar
deriving DecidableEq

namespace Service

structure Settings where
  tokens : Token.Config
  guard : Guard.Config
  pool : Pool.Limits
  rotate : Bool

def Settings.ofTokens (tokens : Token.Config) : Settings := ⟨tokens, .default, .default, false⟩

structure Surroundings where
  clock : Clock
  fails : Counter.Operation → String → Bool
  directory : Directory
  verifier : Verifier
  /-- The ids that are drawn for tokens, by number. -/
  ids : Nat → String

def Surroundings.context (around : Surroundings) : Counter.Context :=
  ⟨around.clock.uptime, around.fails⟩

structure State where
  store : Counter.Store
  pool : Pool Bookkeeping
  drawn : Nat

namespace State

def new (settings : Settings) : State := ⟨.empty, .new settings.pool, 0⟩

def run {α : Type} (s : State) (around : Surroundings) (action : Counter.Action α) :
    Except Error α × State :=
  let (answer, store) := action.run around.context s.store
  (answer, { s with store })

def submit (s : State) (job : Option Bookkeeping) : State :=
  match job with
  | none => s
  | some job => { s with pool := (s.pool.submit job).2 }

def drain (s : State) (settings : Settings) (around : Surroundings) : State :=
  let (store, pool) := s.pool.drain
    (fun job store => ((job.run settings.guard).run around.context store).2) s.store
  { s with store, pool }

def shutdown (s : State) (settings : Settings) (around : Surroundings) : State :=
  let s := s.drain settings around
  { s with pool := s.pool.close?.getD s.pool }

def issuePair (s : State) (settings : Settings) (around : Surroundings) (user : UserId) :
    Except Refusal Token.Pair × State :=
  let pair := Token.issuePair settings.tokens user (around.ids s.drawn) (around.ids (s.drawn + 1))
    around.clock.wall
  (match pair with
    | some (access, refresh) => .ok (.ofIssued access refresh)
    | none => .error .beyondCalendar,
  { s with drawn := s.drawn + 2 })

end State

end Service

end Gatehouse
