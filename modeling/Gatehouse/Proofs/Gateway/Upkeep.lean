import Gatehouse.Gateway.Basic
import Gatehouse.Proofs.Counter.Sweep
import Gatehouse.Proofs.Service.Run

/-! Runs of a gateway that sweeps its own store. Whatever is called in between, the store holds
nothing that has expired once the clock has moved on by the interval; a sweep takes away nothing
that is live, and there is none after the gateway was shut down. -/
namespace Gatehouse.Gateway

open Counter (Action Slot wholeMillis)

/-- What happens to a gateway. -/
inductive Event where
  | login (request : LoginRequest) (origin : String)
  | refresh (token : String)
  /-- Any other call that uses the counters, whatever its answer is. -/
  | call {Answer : Type}
      (action : Service.Settings → Service.Surroundings → Action Answer)
  /-- A worker makes the change that has waited longest. -/
  | work
  | drain
  | purge
  /-- Users, roles or tables change. -/
  | store (database : Database)
  | migrate
  | advance (span : Span)
  | shutdown

/-- A gateway with its clock. -/
structure Running where
  gateway : Gateway
  clock : Clock

namespace Running

variable (ids : Nat → String) (r : Running)

def uptime : Uptime := r.clock.uptime

def counters : Counter.Store := r.gateway.state.store

/-- What a call finds around it; the built-in counters never fail. -/
def around : Service.Surroundings := r.gateway.around r.clock (fun _ _ => false) ids

def withState (state : Service.State) : Running := { r with gateway := { r.gateway with state } }

def step : Event → Running
  | .login request origin =>
    r.withState (r.gateway.state.login r.gateway.settings (r.around ids) request origin).2
  | .refresh token =>
    r.withState (r.gateway.state.refresh r.gateway.settings (r.around ids) token).2
  | .call action =>
    r.withState (r.gateway.state.run (r.around ids)
      (action r.gateway.settings (r.around ids))).2
  | .work => r.withState (r.gateway.state.work r.gateway.settings (r.around ids))
  | .drain => r.withState (r.gateway.state.drain r.gateway.settings (r.around ids))
  | .purge => r.withState { r.gateway.state with store := (r.counters.purge r.uptime).2 }
  | .store database => { r with gateway := { r.gateway with database } }
  | .migrate => { r with gateway := (r.gateway.migrate r.clock.second).2 }
  | .advance span =>
    let later : Running := { r with clock := r.clock.advance span }
    { later with gateway := r.gateway.advance r.uptime (later.around ids) }
  | .shutdown => { r with gateway := r.gateway.shutdown (r.around ids) }

def after (events : List Event) : Running := events.foldl (step ids) r

/-- The state at the end of a span, with all changes made that wait but without a sweep. -/
def unswept (span : Span) : Service.State :=
  r.gateway.state.drain r.gateway.settings
    (Running.around ids { r with clock := r.clock.advance span })

@[simp] theorem after_nil : r.after ids [] = r := rfl

@[simp] theorem after_cons (e : Event) (events : List Event) :
    r.after ids (e :: events) = (r.step ids e).after ids events := rfl

/-! ## The sweep in a run -/

theorem clock_withState (state : Service.State) : (r.withState state).clock = r.clock := rfl

theorem sweep_withState (state : Service.State) :
    (r.withState state).gateway.sweep = r.gateway.sweep := rfl

theorem sweep_step (e : Event) (h : e ≠ .shutdown) :
    (r.step ids e).gateway.sweep = r.gateway.sweep := by
  cases e with
  | login | refresh | call | work | drain | purge => exact r.sweep_withState _
  | store | migrate | advance => rfl
  | shutdown => contradiction

theorem clock_step (e : Event) :
    (r.step ids e).clock = match e with
      | .advance span => r.clock.advance span
      | _ => r.clock := by
  cases e with
  | login | refresh | call | work | drain | purge => exact r.clock_withState _
  | store | migrate | advance | shutdown => rfl

theorem uptime_le_step (e : Event) : r.uptime ≤ (r.step ids e).uptime := by
  unfold uptime
  rw [clock_step]
  split
  · exact Nat.le_add_right _ _
  · exact Nat.le_refl _

/-- The sweep goes on as long as the gateway is not shut down. -/
theorem sweep_after {events : List Event} (h : .shutdown ∉ events) :
    (r.after ids events).gateway.sweep = r.gateway.sweep ∧
      r.uptime ≤ (r.after ids events).uptime := by
  induction events generalizing r with
  | nil => exact ⟨rfl, Nat.le_refl _⟩
  | cons e events ih =>
    rw [List.mem_cons, not_or] at h
    obtain ⟨hsweep, huptime⟩ := ih (r.step ids e) h.2
    exact ⟨hsweep.trans (r.sweep_step ids e (Ne.symm h.1)),
      Nat.le_trans (r.uptime_le_step ids e) huptime⟩

theorem sweep_step_of_none (e : Event) (h : r.gateway.sweep = none) :
    (r.step ids e).gateway.sweep = none := by
  by_cases hshutdown : e = .shutdown
  · subst hshutdown
    rfl
  · rw [r.sweep_step ids e hshutdown, h]

theorem sweep_after_of_none {events : List Event} (h : r.gateway.sweep = none) :
    (r.after ids events).gateway.sweep = none := by
  induction events generalizing r with
  | nil => exact h
  | cons e events ih => exact ih (r.step ids e) (r.sweep_step_of_none ids e h)

/-- A gateway that was shut down never sweeps again. -/
theorem sweep_after_shutdown {events : List Event} (h : .shutdown ∈ events) :
    (r.after ids events).gateway.sweep = none := by
  induction events generalizing r with
  | nil => contradiction
  | cons e events ih =>
    rcases List.mem_cons.mp h with rfl | h
    · exact sweep_after_of_none ids (r.step ids .shutdown) rfl
    · exact ih (r.step ids e) h

/-! ## One move of the clock -/

theorem counters_advance {sweep : Counter.Sweep} (h : r.gateway.sweep = some sweep) (span : Span) :
    (r.step ids (.advance span)).counters =
      sweep.pass r.uptime (r.uptime + span.nanos) (r.unswept ids span).store := by
  unfold step counters advance
  simp only [h]
  rfl

theorem state_advance_of_none (h : r.gateway.sweep = none) (span : Span) :
    (r.step ids (.advance span)).gateway.state = r.unswept ids span := by
  unfold step advance
  simp only [h]
  rfl

/-- Under an interval of zero the store is never swept. -/
theorem counters_advance_of_zero {sweep : Counter.Sweep} (h : r.gateway.sweep = some sweep)
    (hzero : sweep.interval.nanos = 0) (span : Span) :
    (r.step ids (.advance span)).counters = (r.unswept ids span).store := by
  rw [r.counters_advance ids h, Counter.Sweep.pass_of_zero hzero]

/-- Moving the clock on takes away no entry that is live by then. -/
theorem getElem?_advance {span : Span} {key : String} {slot : Slot}
    (hslot : (r.unswept ids span).store.slots[key]? = some slot)
    (hlive : slot.isLive (r.uptime + span.nanos) = true) :
    (r.step ids (.advance span)).counters.slots[key]? = some slot := by
  cases hsweep : r.gateway.sweep with
  | none =>
    rw [counters, r.state_advance_of_none ids hsweep]
    exact hslot
  | some sweep =>
    rw [r.counters_advance ids hsweep]
    exact Counter.Sweep.getElem?_pass hslot hlive

end Running

/-! ## Gateways that were set up -/

private theorem exists_of_bind_eq_ok {ε α β : Type} {x : Except ε α} {f : α → Except ε β} {b : β}
    (h : (x >>= f) = .ok b) : ∃ a, f a = .ok b := by
  cases x with
  | error e => contradiction
  | ok a => exact ⟨a, h⟩

/-- A gateway that is to sweep its store does so from the time at which it was set up. -/
theorem sweep_of_setUp {p : Plan} {db : Database} {clock : Clock} {g : Gateway} {interval : Span}
    (h : setUp p db clock = .ok g) (hinterval : p.sweepEvery = some interval) :
    g.sweep = some ⟨interval, clock.uptime⟩ := by
  unfold setUp at h
  obtain ⟨settings, h⟩ := exists_of_bind_eq_ok h
  simp only [hinterval] at h
  split at h
  · split at h
    · rw [← Except.ok.inj h]
      rfl
    · contradiction
  · rw [← Except.ok.inj h]
    rfl

/-- Runs of a gateway that sweeps its own store at an interval other than zero. Before a shutdown,
nothing that has expired is stored once the clock has moved on by at least the interval, in whole
milliseconds, and all waiting changes were made. No sweep takes away a live entry, and after a
shutdown the store changes by no sweep. -/
theorem upkeep {p : Plan} {db : Database} {clock : Clock} {g : Gateway} {interval : Span}
    (hsetUp : setUp p db clock = .ok g) (hinterval : p.sweepEvery = some interval)
    (hpositive : interval.nanos ≠ 0) (ids : Nat → String) (events : List Event) (span : Span) :
    let r := Running.after ids ⟨g, clock⟩ events
    let later := r.step ids (.advance span)
    (.shutdown ∉ events → wholeMillis interval ≤ span.nanos → later.uptime < Uptime.limit →
      later.counters.AllLive later.uptime ∧
        later.counters.size = later.counters.living later.uptime) ∧
    (∀ (key : String) (slot : Slot), (r.unswept ids span).store.slots[key]? = some slot →
      slot.isLive later.uptime = true → later.counters.slots[key]? = some slot) ∧
    (.shutdown ∈ events → later.gateway.state = r.unswept ids span) := by
  intro r later
  refine ⟨fun hrunning hlong hlimit => ?_, fun key slot => r.getElem?_advance ids,
    fun hshutdown => ?_⟩
  · obtain ⟨hsweep, huptime⟩ := Running.sweep_after ids ⟨g, clock⟩ hrunning
    rw [sweep_of_setUp hsetUp hinterval] at hsweep
    have hdue : Counter.Sweep.rounds ⟨interval, clock.uptime⟩ r.uptime <
        Counter.Sweep.rounds ⟨interval, clock.uptime⟩ (r.uptime + span.nanos) :=
      Counter.Sweep.rounds_lt hpositive huptime hlong hlimit
    have hlive : later.counters.AllLive later.uptime := by
      have hcounters := r.counters_advance ids hsweep span
      rw [Counter.Sweep.pass_eq_purge hdue] at hcounters
      change Counter.Store.AllLive (r.step ids (.advance span)).counters (r.uptime + span.nanos)
      rw [hcounters]
      exact Counter.Store.allLive_purge _ _
    exact ⟨hlive, hlive.size_eq⟩
  · exact r.state_advance_of_none ids (Running.sweep_after_shutdown ids _ hshutdown) span

namespace Sample

def plan (interval : Span) : Plan where
  tokens := some Service.Sample.settings.tokens
  guard := .default
  pool := .default
  rotate := true
  migrate := false
  sweepEvery := some interval

def clock : Clock := Service.Sample.clock

def gateway (interval : Span) : Gateway :=
  (new Service.Sample.settings .empty).startSweep interval clock.uptime

theorem setUp_plan (interval : Span) : setUp (plan interval) .empty clock = .ok (gateway interval) :=
  rfl

def ids (n : Nat) : String := s!"id {n}"

def second : Span := .ofSeconds 1

def twoSeconds : Span := .ofSeconds 2

/-- A flag is set for one second. -/
def flag : Event := .call fun _ _ => Action.setFlag "flag" second

def flagged (interval : Span) : Running := Running.after ids ⟨gateway interval, clock⟩ [flag]

theorem flag_swept :
    (flagged twoSeconds).counters.size = 1 ∧
    (let later := (flagged twoSeconds).step ids (.advance twoSeconds)
     later.counters.AllLive later.uptime ∧
      later.counters.size = later.counters.living later.uptime) := by
  have hrunning : Event.shutdown ∉ [flag] := by simp [flag]
  have hupkeep := upkeep (setUp_plan twoSeconds) rfl (by decide) ids [flag] twoSeconds
  exact ⟨by decide, hupkeep.1 hrunning (by decide) (by decide)⟩

/-- A gateway is set up with an interval of zero all the same, but it never sweeps: an entry that
expired a second ago is still stored. -/
theorem flag_kept :
    setUp (plan .zero) .empty clock = .ok (gateway .zero) ∧ Span.zero.nanos ≤ twoSeconds.nanos ∧
    (let later := (flagged .zero).step ids (.advance twoSeconds)
     later.counters.size = 1 ∧ later.counters.living later.uptime = 0) := by
  exact ⟨setUp_plan .zero, by decide, by decide, by decide⟩

end Sample

end Gatehouse.Gateway
