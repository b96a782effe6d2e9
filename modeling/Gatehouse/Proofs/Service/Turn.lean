import Gatehouse.Proofs.Database.Change
import Gatehouse.Proofs.Guard.Blocking
import Gatehouse.Proofs.Guard.Lockout
import Gatehouse.Proofs.Service.GuardEvents
import Gatehouse.Proofs.Service.Login

/-! Turns of the service: an event, after which the changes that wait are made. Between two turns no
change waits, so a turn makes at most one: that of its own login, if that got as far as comparing a
password. -/
namespace Gatehouse.Service

open Counter (Timed)
open Guard (Blocking Lockout)

namespace Moment

variable (settings : Settings) (m : Moment)

/-- An event, after which the changes that wait are made. -/
def turn (e : Event) : Moment := (m.step settings e).step settings .drain

def turns (events : List Event) : Moment := events.foldl (turn settings) m

/-- A login under these circumstances succeeds. -/
def LogsIn (request : LoginRequest) (origin : String) : Prop :=
  ∃ response, (m.state.login settings m.around request origin).1.answer = .ok response

end Moment

section

variable {settings : Settings} {m : Moment}

theorem Moment.queued_turn (e : Event) : (m.turn settings e).state.pool.queued = [] := rfl

theorem Moment.uptime_le_turn (settings : Settings) (e : Event) :
    m.uptime ≤ (m.turn settings e).uptime :=
  m.uptime_le_step settings e

theorem Moment.uptime_le_turns (events : List Event) :
    m.uptime ≤ (m.turns settings events).uptime := by
  induction events generalizing m with
  | nil => exact Nat.le_refl _
  | cons e rest ih => exact Nat.le_trans (m.uptime_le_turn settings e) ih

theorem Moment.turns_concat (events : List Event) (e : Event) :
    m.turns settings (events ++ [e]) = (m.turns settings events).turn settings e := by
  simp only [turns, List.foldl_append, List.foldl_cons, List.foldl_nil]

/-! ## What a login leaves behind -/

/-- Over a store that works, a login ends with an error and leaves nothing behind, or it gets as far
as comparing a password. -/
theorem State.login_cases (settings : Settings) {around : Surroundings}
    (hsound : around.fails = fun _ _ => false) (s : State) (request : LoginRequest)
    (origin : String) :
    ((∃ e, (s.login settings around request origin).1.answer = .error (.error e)) ∧
      (s.login settings around request origin).2.pool = s.pool) ∨
    ∃ r user, request.sanitize = .ok r ∧
      Compares s settings around request origin r user
        (isLocked settings around.clock.uptime s.store r.username)
        (isBlocked settings around.clock.uptime s.store origin) := by
  cases hr : request.sanitize with
  | error e =>
    rw [State.login_of_sanitize_error hr]
    exact .inl ⟨⟨_, rfl⟩, rfl⟩
  | ok r =>
    have hlock := lockReading_of_sound settings hsound s.store r.username
    obtain ⟨block, hblock, hblocked⟩ := blockReading_of_sound settings hsound
      (lockReading settings around s.store r.username).2 origin
    rw [isBlocked_lockReading] at hblocked
    cases huser : around.directory.byUsername r.username with
    | error e =>
      have hstopped : attemptAfter around r origin
          (.ok (isLocked settings around.clock.uptime s.store r.username)) (.ok block) =
            .stopped e := by
        unfold attemptAfter
        simp only [huser]
      rw [State.login_of_sanitize_ok hr]
      dsimp only
      rw [hlock, hblock, hstopped]
      exact .inl ⟨⟨e, rfl⟩, rfl⟩
    | ok user =>
      refine .inr ⟨r, user, rfl, ?_⟩
      rw [← hblocked]
      exact compares_of_readings hr hlock hblock huser

theorem checkUsername_of_sanitize {request r : LoginRequest} (h : request.sanitize = .ok r) :
    checkUsername request.username = .ok r.username := by
  obtain ⟨username, husername, hrest⟩ := Database.ok_of_bind h
  obtain ⟨_, -, hchecked⟩ := Database.ok_of_bind hrest
  cases hchecked
  exact husername

/-- A login that succeeds is neither under a lock nor under a block. -/
theorem Moment.LogsIn.free {request : LoginRequest} {origin : String}
    (h : m.LogsIn settings request origin) :
    ∃ username, checkUsername request.username = .ok username ∧
      isLocked settings m.uptime m.state.store username = false ∧
      isBlocked settings m.uptime m.state.store origin = false := by
  obtain ⟨response, hanswer⟩ := h
  rcases State.login_cases settings m.sound m.state request origin with
    ⟨⟨e, herror⟩, -⟩ | ⟨r, user, hr, hcompares⟩
  · rw [herror] at hanswer
    contradiction
  · refine ⟨r.username, checkUsername_of_sanitize hr, ?_⟩
    by_contra hkept
    obtain ⟨-, hrefused⟩ := hcompares.refused fun u hu => hkept ⟨hu.2.1, hu.2.2.1⟩
    rw [hrefused] at hanswer
    contradiction

theorem State.pool_refresh {around : Surroundings} (s : State) (token : String) :
    (s.refresh settings around token).2.pool = s.pool := by
  have hrun : (s.run around (redeem settings around token)).2.pool = s.pool := s.pool_run _
  unfold State.refresh
  rcases hresult : s.run around (redeem settings around token) with ⟨_ | id, after⟩
  · rw [hresult] at hrun
    exact hrun
  · rw [hresult] at hrun
    exact hrun

theorem queued_close (pool : Pool Bookkeeping) : (pool.close?.getD pool).queued = pool.queued := by
  unfold Pool.close?
  split
  · rfl
  · rfl

theorem queued_submit {pool : Pool Bookkeeping} (hempty : pool.queued = []) (job : Bookkeeping) :
    (pool.submit job).2.queued = [] ∨ (pool.submit job).2.queued = [job] := by
  unfold Pool.submit
  split
  · exact .inl hempty
  · rw [hempty]
    exact .inr rfl

/-- A turn that finds no change waiting leaves at most one, which is that of a login. -/
theorem Moment.queued_step (settings : Settings) (hempty : m.state.pool.queued = []) (e : Event) :
    (m.step settings e).state.pool.queued = [] ∨
      ∃ username origin, (m.step settings e).state.pool.queued = [.failure username origin] ∨
        (m.step settings e).state.pool.queued = [.success username origin] ∧
          isBlocked settings m.uptime m.state.store origin = false := by
  cases e <;> simp only [Moment.step, Moment.perform, State.pool_run]
  case login request origin =>
    rcases State.login_cases settings m.sound m.state request origin with
      ⟨-, hpool⟩ | ⟨r, user, -, hcompares⟩
    · rw [hpool]
      exact .inl hempty
    · obtain ⟨job, hpool, hkind, hsuccess⟩ := hcompares.submitted
      rw [hpool]
      rcases queued_submit hempty job with hrefused | haccepted
      · exact .inl hrefused
      · refine .inr ⟨r.username, origin, ?_⟩
        rw [haccepted]
        rcases hkind with rfl | rfl
        · obtain ⟨u, hu⟩ := hsuccess.mp rfl
          exact .inr ⟨rfl, hu.2.2.1⟩
        · exact .inl rfl
  case refresh token =>
    rw [State.pool_refresh]
    exact .inl hempty
  case work =>
    have hstart : m.state.pool.start? = none := by
      unfold Pool.start?
      rw [hempty]
    unfold State.work
    rw [hstart]
    exact .inl hempty
  case drain => exact .inl rfl
  case shutdown =>
    unfold State.shutdown
    dsimp only
    rw [queued_close]
    exact .inl rfl
  all_goals exact .inl hempty

/-! ## The guard through turns -/

theorem looksAtGuardKeys_lockout (c : Guard.Config) (username : String) :
    LooksAtGuardKeys (Lockout.Tracks c username) := by
  intro t l store hsame h
  exact ⟨h.window.congr (hsame _ (by simp [IsGuardKey])),
    h.lock.congr (hsame _ (by simp [IsGuardKey])), h.below⟩

theorem looksAtGuardKeys_blocking (c : Guard.Config) (origin : String) :
    LooksAtGuardKeys (Blocking.Tracks c origin) := by
  intro t b store hsame h
  exact ⟨h.window.congr (hsame _ (by simp [IsGuardKey])),
    h.level.congr (hsame _ (by simp [IsGuardKey])),
    h.block.congr (hsame _ (by simp [IsGuardKey])), h.below, h.lt_limit⟩

theorem unlock_of_mem {username : String} {e : Event}
    (h : .act (.unlockUser username) ∈ m.guardEvents e) : e = .unlock username := by
  rcases Moment.mem_guardEvents h with ⟨job, -, hact⟩ | ⟨_, rfl, hact⟩ | ⟨_, -, hact⟩
  · cases job <;> contradiction
  · cases hact
    rfl
  · contradiction

theorem unblock_of_mem {origin : String} {e : Event}
    (h : .act (.unblockOrigin origin) ∈ m.guardEvents e) : e = .unblock origin := by
  rcases Moment.mem_guardEvents h with ⟨job, -, hact⟩ | ⟨_, -, hact⟩ | ⟨_, rfl, hact⟩
  · cases job <;> contradiction
  · contradiction
  · cases hact
    rfl

theorem success_of_mem {username origin : String} {e : Event}
    (h : .act (.clearOnSuccess username origin) ∈ m.guardEvents e) :
    .success username origin ∈ m.state.pool.queued := by
  rcases Moment.mem_guardEvents h with ⟨job, hjob, hact⟩ | ⟨_, -, hact⟩ | ⟨_, -, hact⟩
  · cases job with
    | failure _ _ => contradiction
    | success _ _ =>
      cases hact
      exact hjob
  · contradiction
  · contradiction

section

variable {σ α : Type} {machine : Guard.Machine σ α}
  {about : Guard.Event → Guard.Reply → Option α} {related : Timed → σ → Prop}

/-- A property of the machine's state that every call of a turn keeps is there after the turn. -/
theorem Moment.exists_related_turn (hfollows : machine.Follows settings.guard about related)
    (hkeys : LooksAtGuardKeys related) {P : σ → Prop} {e : Event}
    (hstep : ∀ now s g, g ∈ m.guardEvents e ∨ g ∈ (m.step settings e).guardEvents .drain →
      m.uptime ≤ now → P s → P (machine.step now s g).2)
    {s : σ} (h : related m.timed s) (hP : P s) :
    ∃ s', related (m.turn settings e).timed s' ∧ P s' := by
  have hfirst := m.related_step hfollows hkeys h e
  have hkept : P (machine.after m.uptime s (m.guardEvents e)) :=
    Guard.Machine.after_of_step (fun now s g hg => hstep now s g (.inl hg)) (Nat.le_refl _) hP
  refine ⟨_, Moment.related_step hfollows hkeys hfirst .drain, ?_⟩
  exact Guard.Machine.after_of_step (fun now s g hg => hstep now s g (.inr hg))
    (m.uptime_le_step settings e) hkept

theorem Moment.exists_related_turns (hfollows : machine.Follows settings.guard about related)
    (hkeys : LooksAtGuardKeys related) (events : List Event) {s : σ} (h : related m.timed s) :
    ∃ s', related (m.turns settings events).timed s' := by
  induction events generalizing m s with
  | nil => exact ⟨s, h⟩
  | cons e rest ih =>
    obtain ⟨s', hrelated, -⟩ := Moment.exists_related_turn (P := fun _ => True) hfollows hkeys
      (fun _ _ _ _ _ _ => trivial) h trivial (e := e)
    exact ih hrelated

end

end

end Gatehouse.Service
