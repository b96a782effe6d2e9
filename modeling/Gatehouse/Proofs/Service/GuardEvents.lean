import Gatehouse.Proofs.Guard.Machine
import Gatehouse.Proofs.Service.Run

/-! A run of the service as the guard sees it. Logins only read the keys of the guard, and tokens
are revoked under other keys. What is left are the changes that logins leave behind, the lifting of
locks and blocks, purges and time; a machine that follows the guard through these follows the
service. -/
namespace Gatehouse

open Counter (Action Key Store Timed)
open Counter.Action (Spares run_bind_pure)

/-- The call of the guard by which a change is made. -/
def Bookkeeping.act : Bookkeeping → Guard.Act
  | failure username origin => .recordFailure username origin
  | success username origin => .clearOnSuccess username origin

theorem Bookkeeping.run_act (job : Bookkeeping) (guard : Guard.Config) (context : Counter.Context)
    (store : Store) :
    ((job.act.action guard).run context store).2 = ((job.run guard).run context store).2 := by
  cases job <;> simp only [act, Guard.Act.action, run, run_bind_pure, Action.run_attempt]

namespace Service

def Moment.timed (m : Moment) : Timed := ⟨m.uptime, m.state.store⟩

theorem Moment.timed_update (m : Moment) (state : State) :
    Moment.timed { m with state } = ⟨m.uptime, state.store⟩ := rfl

/-- What an event of the service is to the guard. -/
def Moment.guardEvents (m : Moment) : Event → List Guard.Event
  | .unlock username => [.act (.unlockUser username)]
  | .unblock origin => [.act (.unblockOrigin origin)]
  | .work => (m.state.pool.start?.map fun started => .act started.1.act).toList
  | .drain | .shutdown => m.state.pool.queued.map fun job => .act job.act
  | .purge => [.purge]
  | .advance span => [.advance span]
  | .login _ _ | .refresh _ | .authenticate _ | .logout _ _ | .change _ _ => []

/-- A call of the guard is a change that waited, or lifts a lock or a block as the event says. -/
theorem Moment.mem_guardEvents {m : Moment} {e : Event} {a : Guard.Act}
    (h : .act a ∈ m.guardEvents e) :
    (∃ job ∈ m.state.pool.queued, a = job.act) ∨
      (∃ username, e = .unlock username ∧ a = .unlockUser username) ∨
      ∃ origin, e = .unblock origin ∧ a = .unblockOrigin origin := by
  have hjobs (h : .act a ∈ m.state.pool.queued.map fun job => Guard.Event.act job.act) :
      ∃ job ∈ m.state.pool.queued, a = job.act := by
    obtain ⟨job, hjob, hact⟩ := List.mem_map.mp h
    cases hact
    exact ⟨job, hjob, rfl⟩
  cases e with
  | unlock username =>
    cases List.mem_singleton.mp h
    exact .inr (.inl ⟨username, rfl, rfl⟩)
  | unblock origin =>
    cases List.mem_singleton.mp h
    exact .inr (.inr ⟨origin, rfl, rfl⟩)
  | work =>
    obtain ⟨started, hstarted, hact⟩ := Option.map_eq_some_iff.mp (Option.mem_toList.mp h)
    cases hact
    refine .inl ⟨started.1, ?_, rfl⟩
    unfold Pool.start? at hstarted
    split at hstarted
    · contradiction
    · rename_i job rest hqueued
      split at hstarted
      · cases hstarted
        rw [hqueued]
        exact List.mem_cons_self
      · contradiction
  | drain => exact .inl (hjobs h)
  | shutdown => exact .inl (hjobs h)
  | purge => cases List.mem_singleton.mp h
  | advance span => cases List.mem_singleton.mp h
  | _ => cases h

/-! ## Keys that are none of the guard's -/

def IsGuardKey (key : Key) : Prop := ∀ jti, .revoked jti ≠ key

section

variable {settings : Settings} {around : Surroundings} {key : Key}

theorem spares_revoke (hkey : IsGuardKey key) (claims : Token.Claims) :
    Spares key.text (revoke around claims) := by
  unfold revoke Revocation.revoke
  split
  · exact Action.spares_pure _
  · exact Action.spares_setFlag (fun h => hkey _ (Key.text_injective h)) _

theorem spares_redeem (hkey : IsGuardKey key) (token : String) :
    Spares key.text (redeem settings around token) := by
  unfold redeem
  refine .bind spares_accepted fun claims => .bind (Action.spares_lift _) fun id =>
    .bind (Action.spares_lift _) fun user => ?_
  split
  · exact Action.spares_throw _
  · split
    · exact .bind (spares_revoke hkey claims) fun _ => Action.spares_pure _
    · exact Action.spares_pure _

theorem spares_logout (hkey : IsGuardKey key) (access : Token.Claims) (refresh : String) :
    Spares key.text (logout settings around access refresh) := by
  have hrevoke (claims : Token.Claims) :
      Spares key.text (do let _ ← (revoke around claims).attempt) :=
    .bind (spares_revoke hkey claims).attempt fun _ => Action.spares_pure _
  unfold logout
  dsimp only
  split
  · exact Action.spares_throw_bind _ _
  · refine .bind (spares_revoke hkey access).attempt fun _ => ?_
    split
    · exact Action.spares_pure _
    · split
      · exact Action.spares_throw_bind _ _
      · exact hrevoke _

end

/-! ## Following the service -/

/-- A relation that looks at the store through the keys of the guard only. -/
def LooksAtGuardKeys {σ : Type} (related : Timed → σ → Prop) : Prop :=
  ∀ (t : Timed) (s : σ) (store : Store),
    (∀ key, IsGuardKey key → ∀ later, t.now ≤ later →
      store.live? later key.text = t.store.live? later key.text) →
    related t s → related { t with store } s

section

variable {settings : Settings} {σ α : Type} {machine : Guard.Machine σ α}
  {about : Guard.Event → Guard.Reply → Option α} {related : Timed → σ → Prop}

theorem related_jobs (hfollows : machine.Follows settings.guard about related)
    (jobs : List Bookkeeping) {t : Timed} {s : σ} (h : related t s) :
    related ⟨t.now, jobs.foldl
        (fun store job => ((job.run settings.guard).run (.sound t.now) store).2) t.store⟩
      (machine.after t.now s (jobs.map fun job => .act job.act)) := by
  induction jobs generalizing t s with
  | nil => exact h
  | cons job rest ih =>
    obtain ⟨-, hstep⟩ := hfollows t s (.act job.act) h
    simp only [Guard.step, Bookkeeping.run_act] at hstep
    exact ih hstep

theorem Moment.related_drain (hfollows : machine.Follows settings.guard about related) {m : Moment}
    {s : σ} (h : related m.timed s) :
    related ⟨m.uptime, (m.state.drain settings m.around).store⟩
      (machine.after m.uptime s (m.state.pool.queued.map fun job => .act job.act)) := by
  have hjobs := related_jobs hfollows m.state.pool.queued h
  unfold State.drain Pool.drain
  rw [m.context_sound]
  exact hjobs

theorem Moment.related_step (hfollows : machine.Follows settings.guard about related)
    (hkeys : LooksAtGuardKeys related) {m : Moment} {s : σ} (h : related m.timed s) (e : Event) :
    related (m.step settings e).timed (machine.after m.uptime s (m.guardEvents e)) := by
  have hspared {β : Type} {a : Action β} (ha : ∀ key, IsGuardKey key → Spares key.text a) :
      related ⟨m.uptime, (m.state.run m.around a).2.store⟩ s :=
    hkeys m.timed s _ (fun key hkey later hlater => m.state.live?_run (ha key hkey) hlater) h
  have hact {β : Type} {a : Action β} {act : Guard.Act}
      (ha : (a.run m.around.context m.state.store).2 =
        ((act.action settings.guard).run m.around.context m.state.store).2) :
      related ⟨m.uptime, (m.state.run m.around a).2.store⟩
        (machine.step m.uptime s (.act act)).2 := by
    rw [State.store_run, ha, m.context_sound]
    exact (hfollows m.timed s (.act act) h).2
  -- Each case is brought to its store before any proof is unified with it.
  cases e <;> simp only [Moment.step, Moment.perform, Moment.guardEvents, Guard.Machine.after,
    Moment.timed_update]
  case login request origin =>
    have hread := hspared (a := attempt settings m.around request origin) fun _ _ => spares_attempt
    rw [← State.store_login] at hread
    exact hread
  case refresh token =>
    have hredeemed := hspared (a := redeem settings m.around token) fun _ hkey =>
      spares_redeem hkey token
    rw [← State.store_refresh] at hredeemed
    exact hredeemed
  case authenticate token => exact hspared fun _ _ => spares_accepted
  case logout access refresh => exact hspared fun _ hkey => spares_logout hkey access refresh
  case unlock username => exact hact (by simp only [Guard.Act.action, run_bind_pure])
  case unblock origin => exact hact (by simp only [Guard.Act.action, run_bind_pure])
  case work =>
    unfold State.work
    cases m.state.pool.start? with
    | none => exact h
    | some started =>
      have hjob := related_jobs hfollows [started.1] h
      dsimp only
      rw [m.context_sound]
      exact hjob
  case drain => exact m.related_drain hfollows h
  case shutdown => exact m.related_drain hfollows h
  case purge => exact (hfollows m.timed s .purge h).2
  case change directory verifier => exact h
  case advance span => exact (hfollows m.timed s (.advance span) h).2

end

end Service

end Gatehouse
