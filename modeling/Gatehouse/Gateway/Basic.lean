import Gatehouse.Counter.Sweep
import Gatehouse.Database.Accounts
import Gatehouse.Database.Layout
import Gatehouse.Gateway.Failure
import Gatehouse.Service.Basic

/-! The gateway: the service over a database of users, set up from a plan. It may sweep its counter
store at regular times, until it is shut down. -/
namespace Gatehouse

namespace Gateway

structure Plan where
  tokens : Option Token.Config
  guard : Guard.Config
  pool : Pool.Limits
  rotate : Bool
  /-- Whether setting up brings the database up to date. -/
  migrate : Bool
  /-- How often the counter store is swept; `none` for a store that others look after. -/
  sweepEvery : Option Span

def defaultSweep : Span := .ofSeconds 60

def Plan.settings (p : Plan) : Except SetupError Service.Settings :=
  match p.tokens with
  | none => .error (.invalidConfiguration "Token secrets are not configured")
  | some tokens =>
    if p.pool.workers = 0 ∨ p.pool.capacity = 0 then
      .error (.invalidConfiguration
        "Background pool needs at least one worker and one queue slot")
    else .ok ⟨tokens, p.guard, p.pool, p.rotate⟩

end Gateway

structure Gateway where
  settings : Service.Settings
  state : Service.State
  database : Database
  sweep : Option Counter.Sweep

namespace Gateway

def new (settings : Service.Settings) (db : Database) : Gateway :=
  ⟨settings, .new settings, db, none⟩

def startSweep (g : Gateway) (interval : Span) (now : Uptime) : Gateway :=
  let (sweep, store) := Counter.Sweep.begin interval now g.state.store
  { g with sweep, state.store := store }

def setUp (p : Plan) (db : Database) (clock : Clock) : Except SetupError Gateway := do
  let settings ← p.settings
  let db ←
    if p.migrate then
      match Database.Layout.migrate clock.second db with
      | (.ok (), db) => pure db
      | (.error e, _) => throw (.migration e.message)
    else pure db
  let g := new settings db
  return match p.sweepEvery with
    | some interval => g.startSweep interval clock.uptime
    | none => g

def around (g : Gateway) (clock : Clock) (fails : Counter.Operation → String → Bool)
    (ids : Nat → String) : Service.Surroundings :=
  ⟨clock, fails, g.database.directory, Password.verify, ids⟩

/-- The gateway once the clock has moved on: first all changes of the counters that wait are made,
since jobs that are ready run before timers, and then the store is swept if that is due. -/
def advance (g : Gateway) (before : Uptime) (around : Service.Surroundings) : Gateway :=
  let state := g.state.drain g.settings around
  let store := match g.sweep with
    | some sweep => sweep.pass before around.clock.uptime state.store
    | none => state.store
  { g with state := { state with store } }

def shutdown (g : Gateway) (around : Service.Surroundings) : Gateway :=
  { g with state := g.state.shutdown g.settings around, sweep := none }

def migrate (g : Gateway) (second : Int) : Except Failure Unit × Gateway :=
  let (outcome, database) := Database.Layout.migrate second g.database
  (outcome.mapError fun e => .storage e.message, { g with database })

def health (g : Gateway) : Except Failure Unit :=
  (Database.health.run g.database).1.mapError fun e => .storage e.message

end Gateway

end Gatehouse
