import Gatehouse.Proofs.Service.Turn

/-! Visits to the service: a call together with all changes of the counters that it leaves waiting,
so that a visit finds the pool idle and leaves it so. For each kind of visit this tells what the
visitor is answered and what the counters show afterwards. -/
namespace Gatehouse.Service

open Counter (Action Store)

/-- The state between two visits and what a visitor would find around it. -/
structure Scene where
  state : State
  around : Surroundings

/-- What someone may ask of the service, of the guard or of the list of revoked ids, and what may
happen besides. -/
inductive Visit where
  | login (request : LoginRequest) (origin : String)
  | refresh (token : String)
  | authenticate (token : String)
  | logout (access : Token.Claims) (refresh : String)
  | guard (act : Guard.Act)
  | revoke (jti : String) (lifetime : Int)
  | isRevoked (jti : String)
  | purge
  | shutdown
  | advance (span : Span)
  /-- The users change, or how passwords are compared, or which calls of the counter store fail. -/
  | change (directory : Directory) (verifier : Verifier)
    (fails : Counter.Operation → String → Bool)

/-- What a visitor is told; of new tokens, only that there are some. -/
inductive Answer where
  | login (result : Except Refusal User)
  | refresh (result : Except Refusal Unit)
  | caller (result : Except Error Token.Claims)
  | done (result : Except Error Unit)
  | guard (result : Except Error Guard.Reply)
  | revoked (result : Except Error Bool)
  | none
deriving DecidableEq

namespace Scene

variable (settings : Settings) (s : Scene)

/-- Runs a program on the counters for a visitor. -/
def perform {α : Type} (action : Action α) (say : Except Error α → Answer) : Answer × Scene :=
  (say (s.state.run s.around action).1, { s with state := (s.state.run s.around action).2 })

def receive : Visit → Answer × Scene
  | .login request origin =>
    let login := s.state.login settings s.around request origin
    (.login (login.1.answer.map LoginResponse.user), { s with state := login.2 })
  | .refresh token =>
    let exchange := s.state.refresh settings s.around token
    (.refresh (exchange.1.map fun _ => ()), { s with state := exchange.2 })
  | .authenticate token => s.perform (authenticate settings s.around token) .caller
  | .logout access refresh => s.perform (logout settings s.around access refresh) .done
  | .guard act => s.perform (act.action settings.guard) .guard
  | .revoke jti lifetime => s.perform (Revocation.revoke jti lifetime) .done
  | .isRevoked jti => s.perform (Revocation.isRevoked jti) .revoked
  | .purge =>
    (.none, { s with state.store := (s.state.store.purge s.around.clock.uptime).2 })
  | .shutdown => (.none, { s with state := s.state.shutdown settings s.around })
  | .advance span => (.none, { s with around.clock := s.around.clock.advance span })
  | .change directory verifier fails =>
    (.none, { s with around := { s.around with directory, verifier, fails } })

/-- A visit, and then all changes of the counters that it left waiting. -/
def visit (v : Visit) : Answer × Scene :=
  let received := s.receive settings v
  (received.1, { received.2 with
    state := received.2.state.drain settings received.2.around })

/-- The change of the counters that a login leaves behind. -/
def booked : Visit → Option Bookkeeping
  | .login request origin =>
    ((attempt settings s.around request origin).run s.around.context s.state.store).1.toOption.bind
      fun attempt => attempt.job
  | _ => none

end Scene

/-! ## Changes handed to an idle pool -/

section

variable {settings : Settings} {around : Surroundings} {s : Scene} {request : LoginRequest}
  {origin : String}

theorem State.drain_of_idle {s : State} (hidle : s.pool.queued = []) :
    s.drain settings around = s := by
  obtain ⟨store, ⟨limits, queued, running, closed⟩, drawn⟩ := s
  cases hidle
  rfl

/-- The store once a change was handed to an idle pool and made, unless the pool is closed. -/
def State.settled (s : State) (settings : Settings) (around : Surroundings) :
    Option Bookkeeping → Store
  | none => s.store
  | some job =>
    if s.pool.closed then s.store else ((job.run settings.guard).run around.context s.store).2

theorem State.drain_submit {s : State} (hidle : s.pool.queued = []) (job : Option Bookkeeping) :
    (s.submit job).drain settings around = { s with store := s.settled settings around job } := by
  obtain ⟨store, ⟨limits, queued, running, closed⟩, drawn⟩ := s
  cases hidle
  cases job with
  | none => rfl
  | some job =>
    have hslots : ¬limits.slots ≤ 0 := Nat.not_le.mpr (Nat.le_max_right _ _)
    cases closed with
    | true => rfl
    | false =>
      simp [State.submit, Pool.submit, Pool.enter, State.drain, Pool.drain, State.settled, hslots]

/-- What an attempt comes to: the user who is let in, if the calendar has room for tokens. -/
def outcome (settings : Settings) (around : Surroundings) :
    Except Error Attempt → Except Refusal User
  | .error e => .error (.error e)
  | .ok attempt =>
    match attempt.verdict with
    | .error e => .error (.error e)
    | .ok user => if inCalendar settings around.clock then .ok user else .error .beyondCalendar

theorem State.login_eq (s : State) (request : LoginRequest) (origin : String) :
    s.login settings around request origin =
      match (attempt settings around request origin).run around.context s.store with
      | (.error e, store) => (⟨.error (.error e), none⟩, { s with store })
      | (.ok a, store) => { s with store }.conclude settings around a := by
  unfold login State.run
  rcases (attempt settings around request origin).run around.context s.store
    with ⟨_ | ⟨verdict, compared, job⟩, store⟩
  · rfl
  · cases verdict <;> rfl

theorem State.user_conclude (s : State) (a : Attempt) :
    (s.conclude settings around a).1.answer.map LoginResponse.user =
      outcome settings around (.ok a) := by
  obtain ⟨verdict, compared, job⟩ := a
  cases verdict with
  | error e => rfl
  | ok user =>
    have hissue : ((s.submit job).issuePair settings around user.id).1.map (fun _ => user) =
        outcome settings around (.ok ⟨.ok user, compared, job⟩) := State.map_issuePair user.id user
    rw [← hissue]
    unfold conclude
    dsimp only
    cases ((s.submit job).issuePair settings around user.id).1 <;> rfl

theorem State.drain_conclude {s : State} (hidle : s.pool.queued = []) (a : Attempt) :
    ∃ drawn, (s.conclude settings around a).2.drain settings around =
      ⟨s.settled settings around a.job, s.pool, drawn⟩ := by
  obtain ⟨verdict, compared, job⟩ := a
  have hdrain : (s.submit job).drain settings around = _ := State.drain_submit hidle job
  cases verdict with
  | error e => exact ⟨s.drawn, hdrain⟩
  | ok user =>
    have hdrawn : (s.conclude settings around ⟨.ok user, compared, job⟩).2.drain settings around =
        { (s.submit job).drain settings around with drawn := (s.submit job).drawn + 2 } := rfl
    refine ⟨(s.submit job).drawn + 2, ?_⟩
    rw [hdrawn, hdrain]

theorem State.map_refresh (s : State) (token : String) :
    (s.refresh settings around token).1.map (fun _ => ()) =
      match ((redeem settings around token).run around.context s.store).1 with
      | .error e => .error (.error e)
      | .ok _ => if inCalendar settings around.clock then .ok () else .error .beyondCalendar := by
  unfold refresh State.run
  rcases (redeem settings around token).run around.context s.store with ⟨_ | id, store⟩
  · rfl
  · exact State.map_issuePair id ()

theorem visit_of_login {login : Login} {state state' : State}
    (hlogin : s.state.login settings s.around request origin = (login, state))
    (hdrain : state.drain settings s.around = state') :
    s.visit settings (.login request origin) =
      (.login (login.answer.map LoginResponse.user), { s with state := state' }) := by
  unfold Scene.visit Scene.receive
  simp only [hlogin, hdrain]

/-- A login with the change that it leaves behind, from an idle pool to an idle pool. -/
theorem visit_login (hidle : s.state.pool.queued = []) {answer : Except Error Attempt}
    {store : Store}
    (hread : (attempt settings s.around request origin).run s.around.context s.state.store =
      (answer, store)) :
    (s.visit settings (.login request origin)).1 = .login (outcome settings s.around answer) ∧
      ∃ drawn, (s.visit settings (.login request origin)).2 = { s with state := {
        store := { s.state with store }.settled settings s.around
          (answer.toOption.bind fun attempt => attempt.job)
        pool := s.state.pool
        drawn } } := by
  have hlogin : s.state.login settings s.around request origin = _ :=
    State.login_eq s.state request origin
  rw [hread] at hlogin
  cases answer with
  | error e =>
    have hdrain : State.drain { s.state with store } settings s.around = _ :=
      State.drain_of_idle hidle
    rw [visit_of_login hlogin hdrain]
    exact ⟨rfl, s.state.drawn, rfl⟩
  | ok a =>
    have hidle' : ({ s.state with store } : State).pool.queued = [] := hidle
    obtain ⟨drawn, hdrain⟩ := @State.drain_conclude settings s.around _ hidle' a
    rw [visit_of_login hlogin hdrain]
    exact ⟨congrArg Answer.login (State.user_conclude _ a), drawn, rfl⟩

theorem visit_of_idle {v : Visit} {answer : Answer} {after : Scene}
    (hreceive : s.receive settings v = (answer, after)) (h : after.state.pool.queued = []) :
    s.visit settings v = (answer, after) := by
  unfold Scene.visit
  simp only [hreceive, State.drain_of_idle h]

theorem visit_perform {α : Type} {v : Visit} {a : Action α} {say : Except Error α → Answer}
    (hreceive : s.receive settings v = s.perform a say) (hidle : s.state.pool.queued = []) :
    s.visit settings v = s.perform a say :=
  visit_of_idle hreceive hidle

theorem visit_refresh (hidle : s.state.pool.queued = []) (token : String) :
    s.visit settings (.refresh token) =
      (.refresh ((s.state.refresh settings s.around token).1.map fun _ => ()),
        { s with state := (s.state.refresh settings s.around token).2 }) := by
  refine visit_of_idle rfl ?_
  rw [State.pool_refresh]
  exact hidle

theorem visit_shutdown (hidle : s.state.pool.queued = []) :
    s.visit settings .shutdown =
      (.none, { s with state := { s.state with
        pool := s.state.pool.close?.getD s.state.pool } }) := by
  have hshutdown : s.state.shutdown settings s.around =
      { s.state with pool := s.state.pool.close?.getD s.state.pool } := by
    unfold State.shutdown
    rw [State.drain_of_idle hidle]
  rw [← hshutdown]
  refine visit_of_idle rfl ?_
  rw [hshutdown]
  exact (queued_close _).trans hidle

end

end Gatehouse.Service
