import Gatehouse.Proofs.Guard.Frame
import Gatehouse.Service.Login
import Gatehouse.Service.Session

/-! Runs of the service over a counter store that never fails. A moment is the state between two
calls with what a call would find around it; events lead from one moment to the next, in any order.
-/
namespace Gatehouse.Service

open Counter (Action Key)

/-- A worker takes the change that has waited longest and makes it. -/
def State.work (s : State) (settings : Settings) (around : Surroundings) : State :=
  match s.pool.start? with
  | none => s
  | some (job, pool) =>
    { s with
      store := ((job.run settings.guard).run around.context s.store).2
      pool := pool.finish (pool.running.length - 1) }

structure Moment where
  state : State
  around : Surroundings
  sound : around.fails = fun _ _ => false
  /-- The clock was started in one of the supported years. -/
  started : Timestamp.earliest.toNanos ≤ around.clock.start

inductive Event where
  | login (request : LoginRequest) (origin : String)
  | refresh (token : String)
  | authenticate (token : String)
  | logout (access : Token.Claims) (refresh : String)
  | unlock (username : String)
  | unblock (origin : String)
  | work
  | drain
  | shutdown
  | purge
  /-- The users change, or how passwords are compared. -/
  | change (directory : Directory) (verifier : Verifier)
  | advance (span : Span)

namespace Moment

variable (settings : Settings) (m : Moment)

def uptime : Uptime := m.around.clock.uptime

/-- The moment once a program has changed the counters. -/
def perform {α : Type} (action : Action α) : Moment :=
  { m with state := (m.state.run m.around action).2 }

def step : Event → Moment
  | .login request origin =>
    { m with state := (m.state.login settings m.around request origin).2 }
  | .refresh token => { m with state := (m.state.refresh settings m.around token).2 }
  | .authenticate token => m.perform (authenticate settings m.around token)
  | .logout access refresh => m.perform (logout settings m.around access refresh)
  | .unlock username => m.perform (Guard.unlockUser username)
  | .unblock origin => m.perform (Guard.unblockOrigin origin)
  | .work => { m with state := m.state.work settings m.around }
  | .drain => { m with state := m.state.drain settings m.around }
  | .shutdown => { m with state := m.state.shutdown settings m.around }
  | .purge => { m with state := { m.state with store := (m.state.store.purge m.uptime).2 } }
  | .change directory verifier => { m with around := { m.around with directory, verifier } }
  | .advance span => { m with around := { m.around with clock := m.around.clock.advance span } }

def after (events : List Event) : Moment := events.foldl (step settings) m

/-- Who is calling, by an access token that is presented at this moment. -/
def whoCalls (token : String) : Except Error Token.Claims :=
  (m.state.run m.around (authenticate settings m.around token)).1

/-- The pair that a refresh token brings at this moment. -/
def exchange (token : String) : Except Refusal Token.Pair :=
  (m.state.refresh settings m.around token).1

@[simp] theorem after_nil : m.after settings [] = m := rfl

@[simp] theorem after_cons (e : Event) (events : List Event) :
    m.after settings (e :: events) = (m.step settings e).after settings events := rfl

theorem after_append (before later : List Event) :
    m.after settings (before ++ later) = (m.after settings before).after settings later :=
  List.foldl_append

theorem clock_step (e : Event) :
    (m.step settings e).around.clock =
      match e with
      | .advance span => m.around.clock.advance span
      | _ => m.around.clock := by
  cases e <;> rfl

theorem start_step (e : Event) :
    (m.step settings e).around.clock.start = m.around.clock.start := by
  rw [clock_step]
  split <;> rfl

theorem uptime_le_step (e : Event) : m.uptime ≤ (m.step settings e).uptime := by
  unfold uptime
  rw [clock_step]
  split
  · exact Nat.le_add_right _ _
  · exact Nat.le_refl _

theorem start_after (events : List Event) :
    (m.after settings events).around.clock.start = m.around.clock.start := by
  induction events generalizing m with
  | nil => rfl
  | cons e events ih => rw [after_cons, ih, start_step]

theorem uptime_le_after (events : List Event) : m.uptime ≤ (m.after settings events).uptime := by
  induction events generalizing m with
  | nil => exact Nat.le_refl _
  | cons e events ih => exact Nat.le_trans (uptime_le_step settings m e) (ih _)

/-- Time has gone by from one moment to another. -/
structure Precedes (m later : Moment) : Prop where
  start : later.around.clock.start = m.around.clock.start
  uptime : m.uptime ≤ later.uptime

theorem precedes_after (events : List Event) : m.Precedes (m.after settings events) :=
  ⟨start_after settings m events, uptime_le_after settings m events⟩

theorem Precedes.wallNanos_le {m later : Moment} (h : m.Precedes later) :
    m.around.clock.wallNanos ≤ later.around.clock.wallNanos := by
  unfold Clock.wallNanos
  rw [h.start]
  exact Int.add_le_add_left (Int.ofNat_le.mpr h.uptime) _

end Moment

theorem Surroundings.context_of_sound {around : Surroundings}
    (hsound : around.fails = fun _ _ => false) : around.context = .sound around.clock.uptime := by
  unfold context Counter.Context.sound
  rw [hsound]

theorem Moment.context_sound (m : Moment) : m.around.context = .sound m.uptime :=
  m.around.context_of_sound m.sound

/-! ## What a call leaves alone -/

section

variable {settings : Settings} {around : Surroundings} {key : String} {later : Uptime}

theorem State.answer_run {α : Type} (s : State) (a : Action α) :
    (s.run around a).1 = (a.run around.context s.store).1 := rfl

theorem State.store_run {α : Type} (s : State) (a : Action α) :
    (s.run around a).2.store = (a.run around.context s.store).2 := rfl

theorem State.pool_run {α : Type} (s : State) (a : Action α) :
    (s.run around a).2.pool = s.pool := rfl

theorem State.live?_run {α : Type} {a : Action α} (s : State) (ha : Action.Spares key a)
    (hlater : around.clock.uptime ≤ later) :
    (s.run around a).2.store.live? later key = s.store.live? later key :=
  ha around.context s.store later hlater

@[simp] theorem State.store_submit (s : State) (job : Option Bookkeeping) :
    (s.submit job).store = s.store := by
  cases job <;> rfl

@[simp] theorem State.drawn_submit (s : State) (job : Option Bookkeeping) :
    (s.submit job).drawn = s.drawn := by
  cases job <;> rfl

theorem spares_attempt {request : LoginRequest} {origin : String} :
    Action.Spares key (attempt settings around request origin) := by
  unfold attempt
  split
  · exact Action.spares_pure _
  · refine .bind (Guard.spares_isUserLocked.attempt) fun locked => ?_
    refine .bind (Guard.spares_originBlock.attempt) fun block => ?_
    split
    · exact Action.spares_pure _
    · exact Action.spares_pure _
    · split
      · exact Action.spares_pure _
      · exact Action.spares_pure _

theorem spares_accepted {kind : Token.Kind} {token : String} :
    Action.Spares key (accepted settings around kind token) := by
  unfold accepted Revocation.isRevoked
  refine .bind (Action.spares_lift _) fun claims => .bind ?_ fun revoked => ?_
  · split
    · exact Action.spares_pure _
    · exact Action.spares_contains _
  · split
    · exact .bind (Action.spares_throw _) fun _ => Action.spares_pure _
    · exact Action.spares_pure _

/-- Logging in only reads the counters; what it changes waits in the pool. -/
theorem State.store_login (s : State) (request : LoginRequest) (origin : String) :
    (s.login settings around request origin).2.store =
      (s.run around (attempt settings around request origin)).2.store := by
  unfold login
  rcases s.run around (attempt settings around request origin) with ⟨_ | ⟨verdict, _, job⟩, middle⟩
  · rfl
  · cases verdict with
    | error e => exact middle.store_submit job
    | ok user => exact middle.store_submit job

theorem State.store_refresh (s : State) (token : String) :
    (s.refresh settings around token).2.store =
      (s.run around (redeem settings around token)).2.store := by
  unfold refresh
  split
  · rename_i h
    rw [h]
  · rename_i h
    rw [h]
    rfl

end

/-! ## A sample service -/

namespace Sample

def settings : Settings where
  tokens := {
    accessSecret := List.replicate 32 1
    refreshSecret := List.replicate 32 2
    accessLifetime := nanosPerSecond
    refreshLifetime := nanosPerSecond
    issuer := Token.Config.defaultIssuer
    access_long := by decide
    refresh_long := by decide
    secrets_ne := by decide }
  guard := .default
  pool := .default
  rotate := true

/-- The sample service with a guard that punishes at once. -/
def strict : Settings :=
  { settings with guard := { settings.guard with userThreshold := 1, originThreshold := 1 } }

def user : User where
  id := ⟨7⟩
  username := "alice"
  fullname := "Alice"
  email := "alice@example.com"
  passwordHash := "plain:correct horse"
  createdAt := ⟨0, 0⟩
  updatedAt := ⟨0, 0⟩

def directory : Directory where
  byUsername name := .ok (if name = user.username then some user else none)
  byId id := .ok (if id = user.id then some user else none)
  access _ := .ok none

def verifier : Verifier := fun password candidate =>
  if candidate = .stored ("plain:" ++ password) then .ok () else .error .invalidCredentials

/-- Half a second into a second. -/
def clock : Clock := .startingAt ⟨1700000000, 500000000⟩

def start : Moment where
  state := .new settings
  around := ⟨clock, fun _ _ => false, directory, verifier, fun n => s!"id {n}"⟩
  sound := rfl
  started := by decide

end Sample

end Gatehouse.Service
