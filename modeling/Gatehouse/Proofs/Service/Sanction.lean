import Gatehouse.Proofs.Database.Identity
import Gatehouse.Proofs.Guard.Endurance
import Gatehouse.Proofs.Service.Turn

/-! What sanctions do to logins. A login that fails may lock its username or block its origin; to
the end of the lock no login under that username succeeds unless it is unlocked, and to the end of
the block none from that origin unless it is unblocked, whatever else happens turn by turn. -/
namespace Gatehouse.Service

open Counter (Action Store Timed)
open Guard (Blocking Lockout)

/-- A failed login, and what it brought about. -/
structure Penalty where
  username : String
  origin : String
  sanction : Guard.Sanction
deriving DecidableEq

/-- The penalty of a change, if it is that of a failed login. -/
def penalty? (guard : Guard.Config) (context : Counter.Context) (store : Store) :
    Bookkeeping → Option Penalty
  | .failure username origin =>
    ((Guard.recordFailure guard username origin).run context store).1.toOption.map
      fun sanction => ⟨username, origin, sanction⟩
  | .success _ _ => none

/-- The penalties of changes that are made one after another. -/
def penalties (guard : Guard.Config) (context : Counter.Context) (store : Store) :
    List Bookkeeping → List Penalty
  | [] => []
  | job :: rest =>
    (penalty? guard context store job).toList ++
      penalties guard context ((job.run guard).run context store).2 rest

/-- The penalties that the changes made after an event bring. -/
def Moment.penalties (settings : Settings) (m : Moment) (e : Event) : List Penalty :=
  let after := m.step settings e
  Service.penalties settings.guard after.around.context after.state.store after.state.pool.queued

section

variable {settings : Settings} {m : Moment}

/-! ## Under a lock, under a block -/

/-- A penalty is that of the one change that was waiting. -/
theorem Moment.penalty_of_mem (hempty : m.state.pool.queued = []) {e : Event} {p : Penalty}
    (h : p ∈ m.penalties settings e) :
    (m.step settings e).state.pool.queued = [.failure p.username p.origin] ∧
      ((Guard.recordFailure settings.guard p.username p.origin).run
        (.sound (m.step settings e).uptime) (m.step settings e).state.store).1 =
          .ok p.sanction := by
  unfold penalties at h
  dsimp only at h
  rw [(m.step settings e).context_sound] at h
  rcases Moment.queued_step settings hempty e with
    hqueued | ⟨username, origin, hqueued | ⟨hqueued, -⟩⟩
  · rw [hqueued] at h
    simp only [Service.penalties, List.not_mem_nil] at h
  · rw [hqueued] at h
    simp only [Service.penalties, penalty?, List.append_nil, Option.mem_toList,
      Option.map_eq_some_iff] at h
    obtain ⟨sanction, hsanction, rfl⟩ := h
    refine ⟨hqueued, ?_⟩
    dsimp only
    cases hrun : ((Guard.recordFailure settings.guard username origin).run
      (.sound (m.step settings e).uptime) (m.step settings e).state.store).1 with
    | error cause =>
      rw [hrun] at hsanction
      contradiction
    | ok answer =>
      rw [hrun] at hsanction
      cases hsanction
      rfl
  · rw [hqueued] at h
    simp only [Service.penalties, penalty?, Option.toList_none, List.append_nil,
      List.not_mem_nil] at h

/-- The machine that follows the guard brings the penalty too, and says so. -/
theorem Moment.related_penalty {σ α : Type} {machine : Guard.Machine σ α}
    {about : Guard.Event → Guard.Reply → Option α} {related : Timed → σ → Prop}
    (hfollows : machine.Follows settings.guard about related)
    (hkeys : LooksAtGuardKeys related) (hempty : m.state.pool.queued = []) {e : Event}
    {p : Penalty} (hp : p ∈ m.penalties settings e) {s : σ} (h : related m.timed s) :
    ∃ s', let failure := Guard.Event.act (.recordFailure p.username p.origin)
      let next := machine.step (m.turn settings e).uptime s' failure
      related (m.turn settings e).timed next.2 ∧
        next.1 = about failure
          ⟨some p.sanction.userLocked, some (.blockedFor p.sanction.originBlockedFor)⟩ := by
  obtain ⟨hqueued, hrun⟩ := Moment.penalty_of_mem hempty hp
  have hfirst := m.related_step hfollows hkeys h e
  have hdrained := Moment.related_step hfollows hkeys hfirst .drain
  have hevents : (m.step settings e).guardEvents .drain =
      [.act (.recordFailure p.username p.origin)] := by
    simp only [Moment.guardEvents, hqueued, List.map_cons, List.map_nil, Bookkeeping.act]
  rw [hevents] at hdrained
  refine ⟨_, hdrained, ?_⟩
  have hreply : (Guard.step settings.guard (m.step settings e).timed
      (.act (.recordFailure p.username p.origin))).1 =
        .ok ⟨some p.sanction.userLocked, some (.blockedFor p.sanction.originBlockedFor)⟩ := by
    simp only [Guard.step, Guard.Act.action, Action.run_bind_pure]
    exact congrArg (Except.map _) hrun
  obtain ⟨hanswer, -⟩ := hfollows (m.step settings e).timed _
    (.act (.recordFailure p.username p.origin)) hfirst
  rw [hreply] at hanswer
  exact (Except.ok.inj hanswer).symm

section

variable (henabled : settings.guard.enabled = true)

include henabled

theorem isLocked_of_tracks {username : String} {l : Lockout}
    (h : Lockout.Tracks settings.guard username m.timed l) :
    isLocked settings m.uptime m.state.store username = l.isLocked m.uptime := by
  unfold isLocked
  rw [henabled, Bool.true_and]
  exact h.isLocked_eq

theorem isBlocked_of_tracks {origin : String} {b : Blocking}
    (h : Blocking.Tracks settings.guard origin m.timed b) :
    isBlocked settings m.uptime m.state.store origin = b.isBlocked m.uptime := by
  unfold isBlocked
  rw [henabled, Bool.true_and]
  exact h.isBlocked_eq

/-- A lock outlasts any turns in which the username is not unlocked. -/
theorem locksTo_turns {username : String} {l : Lockout} {instant : Uptime}
    (h : Lockout.Tracks settings.guard username m.timed l) (hlocks : l.LocksTo instant)
    (hinstant : instant ≤ m.uptime + settings.guard.lockout.nanos) {events : List Event}
    (hno : .unlock username ∉ events) :
    ∃ l', Lockout.Tracks settings.guard username (m.turns settings events).timed l' ∧
      l'.LocksTo instant := by
  induction events generalizing m l with
  | nil => exact ⟨l, h, hlocks⟩
  | cons e rest ih =>
    have hstep : ∀ now (s : Lockout) g,
        g ∈ m.guardEvents e ∨ g ∈ (m.step settings e).guardEvents .drain → m.uptime ≤ now →
        s.LocksTo instant →
          ((Lockout.machine settings.guard username).step now s g).2.LocksTo instant := by
      intro now s g hg hnow hs
      refine hs.step (Nat.le_trans hinstant (Nat.add_le_add_right hnow _)) ?_
      rintro rfl
      rcases hg with hg | hg
      · exact hno (unlock_of_mem hg ▸ List.mem_cons_self)
      · cases unlock_of_mem hg
    obtain ⟨l', hl', hlocks'⟩ := Moment.exists_related_turn (Lockout.Tracks.follows henabled)
      (looksAtGuardKeys_lockout _ _) hstep h hlocks
    have hlater := Nat.add_le_add_right (m.uptime_le_turn settings e)
      settings.guard.lockout.nanos
    exact ih hl' hlocks' (Nat.le_trans hinstant hlater) fun hmem =>
      hno (List.mem_cons_of_mem _ hmem)

/-- A block outlasts any turns before its end in which the origin is not unblocked: no login from
the origin succeeds, so the level does not fall. -/
theorem blocksTo_turns {origin : String} {b : Blocking} {instant : Uptime} {d : Span}
    (h : Blocking.Tracks settings.guard origin m.timed b)
    (hempty : m.state.pool.queued = []) (hblocks : b.BlocksTo settings.guard instant d)
    (hinstant : instant ≤ m.uptime + d.nanos) {events : List Event}
    (hno : .unblock origin ∉ events) (hbefore : (m.turns settings events).uptime < instant) :
    ∃ b', Blocking.Tracks settings.guard origin (m.turns settings events).timed b' ∧
      b'.BlocksTo settings.guard instant d := by
  induction events generalizing m b with
  | nil => exact ⟨b, h, hblocks⟩
  | cons e rest ih =>
    have hnow : m.uptime < instant := Nat.lt_of_le_of_lt (m.uptime_le_turns (e :: rest)) hbefore
    have hblocked : isBlocked settings m.uptime m.state.store origin = true := by
      rw [isBlocked_of_tracks henabled h]
      exact hblocks.isBlocked hnow
    -- Only a success could lower the level, and none is left by a login from a blocked origin.
    have hnone (username : String) :
        .success username origin ∉ (m.step settings e).state.pool.queued := by
      rcases Moment.queued_step settings hempty e with hqueued | ⟨_, o, hqueued | ⟨hqueued, hfree⟩⟩
      · simp [hqueued]
      · simp [hqueued]
      · have hother : o ≠ origin := by
          rintro rfl
          rw [hblocked] at hfree
          contradiction
        simp [hqueued, hother.symm]
    have hstep : ∀ now (s : Blocking) g,
        g ∈ m.guardEvents e ∨ g ∈ (m.step settings e).guardEvents .drain → m.uptime ≤ now →
        s.BlocksTo settings.guard instant d →
          ((Blocking.machine settings.guard origin).step now s g).2.BlocksTo settings.guard
            instant d := by
      intro now s g hg hlater hs
      refine hs.step (Nat.le_trans hinstant (Nat.add_le_add_right hlater _)) ?_ ?_
      · rintro rfl
        rcases hg with hg | hg
        · exact hno (unblock_of_mem hg ▸ List.mem_cons_self)
        · cases unblock_of_mem hg
      · rintro username rfl
        rcases hg with hg | hg
        · have hmem := success_of_mem hg
          rw [hempty] at hmem
          contradiction
        · exact hnone username (success_of_mem hg)
    obtain ⟨b', hb', hblocks'⟩ := Moment.exists_related_turn (Blocking.Tracks.follows henabled)
      (looksAtGuardKeys_blocking _ _) hstep h hblocks
    have hlater := Nat.add_le_add_right (m.uptime_le_turn settings e) d.nanos
    exact ih hb' (m.queued_turn e) hblocks' (Nat.le_trans hinstant hlater)
      (fun hmem => hno (List.mem_cons_of_mem _ hmem)) hbefore

theorem exists_locksTo {l : Lockout} {e : Event} {p : Penalty}
    (h : Lockout.Tracks settings.guard p.username m.timed l) (hempty : m.state.pool.queued = [])
    (hp : p ∈ m.penalties settings e) (hlocked : p.sanction.userLocked = true) :
    ∃ l', Lockout.Tracks settings.guard p.username (m.turn settings e).timed l' ∧
      l'.LocksTo ((m.turn settings e).uptime + settings.guard.lockout.nanos) := by
  obtain ⟨l', hl', hanswer⟩ := Moment.related_penalty (Lockout.Tracks.follows henabled)
    (looksAtGuardKeys_lockout _ _) hempty hp h
  have hconcerned : Guard.concernsUser p.username (.recordFailure p.username p.origin) = true :=
    decide_eq_true rfl
  have hstep : (Lockout.machine settings.guard p.username).step (m.turn settings e).uptime l'
      (.act (.recordFailure p.username p.origin)) =
        (some (l'.fail settings.guard (m.turn settings e).uptime).1,
          (l'.fail settings.guard (m.turn settings e).uptime).2) :=
    Guard.Machine.minding_act hconcerned _ _
  rw [hstep] at hl' hanswer
  refine ⟨_, hl', Lockout.locksTo_fail ?_ (Nat.le_refl _)⟩
  rw [Guard.about, if_pos hconcerned] at hanswer
  exact (Option.some.inj hanswer).trans hlocked

theorem exists_blocksTo {b : Blocking} {e : Event} {p : Penalty} {d : Span}
    (h : Blocking.Tracks settings.guard p.origin m.timed b) (hempty : m.state.pool.queued = [])
    (hp : p ∈ m.penalties settings e) (hblocked : p.sanction.originBlockedFor = some d) :
    ∃ b', Blocking.Tracks settings.guard p.origin (m.turn settings e).timed b' ∧
      b'.BlocksTo settings.guard ((m.turn settings e).uptime + d.nanos) d := by
  obtain ⟨b', hb', hanswer⟩ := Moment.related_penalty (Blocking.Tracks.follows henabled)
    (looksAtGuardKeys_blocking _ _) hempty hp h
  have hconcerned : Guard.concernsOrigin p.origin (.recordFailure p.username p.origin) = true :=
    decide_eq_true rfl
  have hstep : (Blocking.machine settings.guard p.origin).step (m.turn settings e).uptime b'
      (.act (.recordFailure p.username p.origin)) =
        (some (.blockedFor (b'.fail settings.guard (m.turn settings e).uptime).1),
          (b'.fail settings.guard (m.turn settings e).uptime).2) :=
    Guard.Machine.minding_act hconcerned _ _
  rw [hstep] at hb' hanswer
  refine ⟨_, hb', Blocking.blocksTo_fail ?_ (Nat.le_refl _)⟩
  rw [Guard.about, if_pos hconcerned] at hanswer
  exact (Guard.OriginAnswer.blockedFor.inj (Option.some.inj hanswer)).trans hblocked

end

theorem Moment.queued_turns (hempty : m.state.pool.queued = []) (events : List Event) :
    (m.turns settings events).state.pool.queued = [] := by
  induction events generalizing m with
  | nil => exact hempty
  | cons e rest ih => exact ih (m.queued_turn e)

/-- To a login all spellings of a username are one that come to the same when they are checked. -/
theorem login_congr {first second : String} (h : checkUsername first = checkUsername second)
    (password origin : String) :
    m.state.login settings m.around ⟨first, password⟩ origin =
      m.state.login settings m.around ⟨second, password⟩ origin := by
  have hattempt : attempt settings m.around ⟨first, password⟩ origin =
      attempt settings m.around ⟨second, password⟩ origin := by
    unfold attempt LoginRequest.sanitize
    rw [h]
  unfold State.login
  rw [hattempt]

/-- From a fresh service on, no login succeeds under a lock, or from an origin under a block, that a
failed login has brought; and two spellings of one user's name are one name to every login. -/
theorem no_login_under_sanction (settings : Settings) (henabled : settings.guard.enabled = true)
    (start : Moment) (hfresh : start.state = .new settings) :
    (∀ (before : List Event) (e : Event) (p : Penalty),
      p ∈ (start.turns settings before).penalties settings e →
      let sanctioned := start.turns settings (before ++ [e])
      (p.sanction.userLocked = true → ∀ later, .unlock p.username ∉ later →
        let m := sanctioned.turns settings later
        m.uptime < sanctioned.uptime + settings.guard.lockout.nanos →
        ∀ request origin, checkUsername request.username = .ok p.username →
          ¬m.LogsIn settings request origin) ∧
      ∀ d, p.sanction.originBlockedFor = some d → ∀ later, .unblock p.origin ∉ later →
        let m := sanctioned.turns settings later
        m.uptime < sanctioned.uptime + d.nanos →
        ∀ request, ¬m.LogsIn settings request p.origin) ∧
    ∀ (operations : List Database.Operation) (first second name other : String)
      (user same : User),
      checkUsername first = .ok name → checkUsername second = .ok other →
      (Database.made operations).directory.byUsername name = .ok (some user) →
      (Database.made operations).directory.byUsername other = .ok (some same) →
      user.id = same.id →
      name = other ∧ ∀ (m : Moment) (password origin : String),
        m.state.login settings m.around ⟨first, password⟩ origin =
          m.state.login settings m.around ⟨second, password⟩ origin := by
  have hempty (before : List Event) : (start.turns settings before).state.pool.queued = [] :=
    Moment.queued_turns (by rw [hfresh]; rfl) before
  have htimed : start.timed = ⟨start.uptime, .empty⟩ := by
    unfold Moment.timed
    rw [hfresh]
    rfl
  refine ⟨fun before e p hp => ?_, ?_⟩
  · intro sanctioned
    have hsanctioned : sanctioned = (start.turns settings before).turn settings e :=
      Moment.turns_concat before e
    rw [hsanctioned]
    refine ⟨fun hlocked later hno => ?_, fun d hblocked later hno => ?_⟩
    · intro m hbefore request origin hrequest hlogin
      obtain ⟨l, hl⟩ := Moment.exists_related_turns (Lockout.Tracks.follows henabled)
        (looksAtGuardKeys_lockout _ p.username) before (htimed ▸ Lockout.tracks_start start.uptime)
      obtain ⟨_, htracks, hlocks⟩ := exists_locksTo henabled hl (hempty before) hp hlocked
      obtain ⟨_, hlater, hlasts⟩ :=
        locksTo_turns henabled htracks hlocks (Nat.le_refl _) hno
      obtain ⟨username, husername, hfree, -⟩ := hlogin.free
      rw [hrequest] at husername
      cases husername
      rw [isLocked_of_tracks henabled hlater, hlasts.isLocked hbefore] at hfree
      cases hfree
    · intro m hbefore request hlogin
      obtain ⟨b, hb⟩ := Moment.exists_related_turns (Blocking.Tracks.follows henabled)
        (looksAtGuardKeys_blocking _ p.origin) before
        (htimed ▸ Blocking.tracks_start start.uptime)
      obtain ⟨_, htracks, hblocks⟩ := exists_blocksTo henabled hb (hempty before) hp hblocked
      obtain ⟨_, hlater, hlasts⟩ :=
        blocksTo_turns henabled htracks (Moment.queued_turn e) hblocks (Nat.le_refl _) hno hbefore
      obtain ⟨-, -, -, hfree⟩ := hlogin.free
      rw [isBlocked_of_tracks henabled hlater, hlasts.isBlocked hbefore] at hfree
      cases hfree
  · intro operations first second name other user same hfirst hsecond huser hsame hid
    obtain rfl := Database.eq_of_byUsername operations huser hsame hid
    exact ⟨rfl, fun m => login_congr (hfirst.trans hsecond.symm)⟩

end

/-! ## A sample service that punishes at once -/

namespace Sample

def mistake : Event := .login ⟨"alice", "battery staple"⟩ origin

def registry : List Database.Operation :=
  [.ensureTable "users",
    .call (.createUser ⟨"alice", "plain:correct horse", "Alice", "alice@example.com"⟩ 0)]

def registered : User :=
  ⟨⟨1⟩, "alice", "Alice", "alice@example.com", "plain:correct horse", ⟨0, 0⟩, ⟨0, 0⟩⟩

theorem byUsername_registry :
    (Database.made registry).directory.byUsername "alice" = .ok (some registered) := by
  decide +kernel

/-- A minute after a wrong password neither the right one opens the account, however the username is
spelled, nor any other account opens from the same origin. -/
theorem alice_locked_out :
    strict.guard.enabled = true ∧ start.state = .new strict ∧
      ⟨"alice", origin, ⟨true, some (.ofSeconds 60)⟩⟩ ∈
        (start.turns strict []).penalties strict mistake ∧
      (let m := (start.turns strict [mistake]).turns strict [.advance (.ofSeconds 59), .purge]
      ¬m.LogsIn strict ⟨" alice", "correct horse"⟩ "198.51.100.1" ∧
        ¬m.LogsIn strict ⟨"bob", "open sesame"⟩ origin) ∧
      ∀ (m : Moment) (password origin : String),
        m.state.login strict m.around ⟨" alice", password⟩ origin =
          m.state.login strict m.around ⟨"alice ", password⟩ origin := by
  obtain ⟨hsanctions, hspellings⟩ := no_login_under_sanction strict rfl start rfl
  have hpenalty : (⟨"alice", origin, ⟨true, some (.ofSeconds 60)⟩⟩ : Penalty) ∈
      (start.turns strict []).penalties strict mistake := by
    decide +kernel
  obtain ⟨hlock, hblock⟩ := hsanctions [] mistake _ hpenalty
  have hsecond := hspellings registry " alice" "alice " "alice" "alice" _ _ rfl rfl
    byUsername_registry byUsername_registry rfl
  refine ⟨rfl, rfl, hpenalty, ⟨?_, ?_⟩, hsecond.2⟩
  · exact hlock rfl _ (by simp) (by decide +kernel) _ _ rfl
  · exact hblock (.ofSeconds 60) rfl _ (by simp) (by decide +kernel) _

end Sample

end Gatehouse.Service
