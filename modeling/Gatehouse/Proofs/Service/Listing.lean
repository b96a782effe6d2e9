import Gatehouse.Proofs.Service.Presented

/-! What calls write into the list of revoked ids. Revoking a token enters its id up to the second
in which it expires, if it has an id and that second is still to come; a logout and an exchange
enter what they revoke, and no other call touches the entry of an id. -/
namespace Gatehouse

/-- The uptime at which the wall time comes to a second. -/
def Clock.uptimeAt (c : Clock) (second : Int) : Uptime := (second * nanosPerSecond - c.start).toNat

theorem Clock.start_add_uptimeAt {c : Clock} {second : Int}
    (h : c.wallNanos ≤ second * nanosPerSecond) :
    c.start + c.uptimeAt second = second * nanosPerSecond := by
  unfold wallNanos at h
  unfold uptimeAt
  omega

namespace Token.Claims

theorem toNanos_expiresAt {c : Claims} (h : Timestamp.inRange c.expires.toInt = true) :
    c.expiresAt.toNanos = c.expires.toInt * nanosPerSecond := by
  simp [expiresAt, Timestamp.ofSeconds?, h, Timestamp.toNanos]

theorem expiresAt_eq_earliest {c : Claims} (h : ¬Timestamp.inRange c.expires.toInt = true) :
    c.expiresAt = .earliest := by
  simp [expiresAt, Timestamp.ofSeconds?, h]

/-- The instant of expiry lies within the supported years. -/
theorem toNanos_expiresAt_le (c : Claims) :
    c.expiresAt.toNanos ≤ Timestamp.lastSecond * nanosPerSecond := by
  by_cases h : Timestamp.inRange c.expires.toInt = true
  · rw [toNanos_expiresAt h]
    simp only [Timestamp.inRange, Bool.and_eq_true, decide_eq_true_eq] at h
    exact Int.mul_le_mul_of_nonneg_right h.2 (by decide)
  · rw [expiresAt_eq_earliest h]
    decide

/-- Whether the instant of expiry is still ahead at a wall time in nanoseconds. -/
def endsAfter (c : Claims) (wallNanos : Int) : Bool := wallNanos < c.expiresAt.toNanos

/-- Whether revoking the token has an effect: it has an id, and it expires in one of the supported
years and later than now. -/
def Listable (c : Claims) (clock : Clock) : Prop :=
  c.jti ≠ "" ∧ Timestamp.inRange c.expires.toInt = true ∧
    clock.wallNanos < c.expires.toInt * nanosPerSecond

instance (c : Claims) (clock : Clock) : Decidable (c.Listable clock) :=
  inferInstanceAs (Decidable (_ ∧ _))

/-- Past the supported years an expiry counts as the earliest instant, and no clock starts before
that. -/
theorem remainingLifetime_pos_iff {c : Claims} {clock : Clock}
    (hstart : Timestamp.earliest.toNanos ≤ clock.start) :
    0 < c.remainingLifetime clock ↔ Timestamp.inRange c.expires.toInt = true ∧
      clock.wallNanos < c.expires.toInt * nanosPerSecond := by
  unfold remainingLifetime
  by_cases h : Timestamp.inRange c.expires.toInt = true
  · rw [toNanos_expiresAt h]
    simp only [h, true_and]
    omega
  · rw [expiresAt_eq_earliest h]
    unfold Clock.wallNanos
    simp only [h, Bool.false_eq_true, false_and, iff_false]
    omega

theorem listable_iff {c : Claims} {clock : Clock}
    (hstart : Timestamp.earliest.toNanos ≤ clock.start) :
    c.Listable clock ↔ ¬(c.jti.isEmpty ∨ c.remainingLifetime clock ≤ 0) := by
  unfold Listable
  rw [← remainingLifetime_pos_iff hstart, not_or, Int.not_le, String.isEmpty_iff]

theorem Listable.endsAfter_eq {c : Claims} {clock : Clock} (h : c.Listable clock) (later : Uptime) :
    c.endsAfter (clock.start + later) = decide (later < clock.uptimeAt c.expires.toInt) := by
  obtain ⟨-, hrange, hahead⟩ := h
  have hend := Clock.start_add_uptimeAt (Int.le_of_lt hahead)
  unfold endsAfter
  rw [toNanos_expiresAt hrange, ← hend]
  apply decide_eq_decide.mpr
  exact (Int.add_lt_add_iff_left _).trans Int.ofNat_lt

end Token.Claims

namespace Service

open Counter (Action Key Operation Slot Store)
open Token (Claims)

/-- The time up to an instant of the supported years never leaves the clock's range. -/
theorem deadlineAfter_of_instant {start instant : Int} {now : Nat}
    (hstart : Timestamp.earliest.toNanos ≤ start)
    (hinstant : instant ≤ Timestamp.lastSecond * nanosPerSecond)
    (hahead : 0 < instant - (start + now)) :
    deadlineAfter now (.ofNanos (instant - (start + now)).toNat) =
      some (instant - start).toNat := by
  have hlast : Timestamp.lastSecond * nanosPerSecond = 8210266876799000000000 := by decide
  have hearliest : Timestamp.earliest.toNanos = -8334601228800000000000 := by decide
  have hlimit : Uptime.limit = 9223372036854775808000000000 := by decide
  have hspan : Span.limit = 18446744073709551616000000000 := by decide
  have hlt : (instant - (start + now)).toNat < Span.limit := by omega
  have hsum : now + (instant - (start + now)).toNat = (instant - start).toNat := by omega
  have hend : (instant - start).toNat < Uptime.limit := by omega
  unfold deadlineAfter
  rw [Span.nanos_ofNanos hlt, hsum, if_pos hend]

/-- The slot of a revoked id: a flag up to the second in which the token expires. -/
def entry (clock : Clock) (c : Claims) : Slot := ⟨1, some (clock.uptimeAt c.expires.toInt)⟩

/-- The store once claims have been revoked. -/
def entered (clock : Clock) (store : Store) (c : Claims) : Store :=
  if c.Listable clock then ⟨store.slots.insert (Key.revoked c.jti).text (entry clock c)⟩ else store

theorem setFlag_remainingLifetime {clock : Clock} {c : Claims} (store : Store)
    (hstart : Timestamp.earliest.toNanos ≤ clock.start) (h : c.Listable clock) :
    store.setFlag clock.uptime (Key.revoked c.jti).text
      (.ofNanos (c.remainingLifetime clock).toNat) = entered clock store c := by
  have hahead : 0 < c.remainingLifetime clock := (Claims.remainingLifetime_pos_iff hstart).mpr h.2
  have hdeadline : deadlineAfter clock.uptime (.ofNanos (c.remainingLifetime clock).toNat) =
      some (c.expiresAt.toNanos - clock.start).toNat :=
    deadlineAfter_of_instant hstart c.toNanos_expiresAt_le hahead
  rw [Claims.toNanos_expiresAt h.2.1] at hdeadline
  unfold entered entry Clock.uptimeAt
  rw [if_pos h, ← hdeadline]
  rfl

theorem live?_entered {clock : Clock} {c : Claims} {store : Store} {key : String} (later : Uptime) :
    (entered clock store c).live? later key =
      if c.Listable clock ∧ (Key.revoked c.jti).text = key then
        (some (entry clock c)).filter (·.isLive later)
      else store.live? later key := by
  unfold entered
  by_cases h : c.Listable clock
  · rw [if_pos h, store.live?_insert]
    simp only [h, true_and]
  · simp only [h, false_and, if_false]

theorem live?_entered_congr {clock : Clock} {s s' : Store} {key : String}
    {later : Uptime}
    (h : s.live? later key = s'.live? later key) (c : Claims) :
    (entered clock s c).live? later key = (entered clock s' c).live? later key := by
  rw [live?_entered, live?_entered, h]

namespace Moment

variable (settings : Settings) (m : Moment)

/-- The surroundings of the moment, with a counter store that may fail. -/
def failing (fails : Operation → String → Bool) : Surroundings := { m.around with fails }

theorem failing_fails : m.failing m.around.fails = m.around := rfl

theorem verified_failing (fails : Operation → String → Bool) (kind : Token.Kind) (token : String) :
    verified settings (m.failing fails) kind token = verified settings m.around kind token := by
  unfold verified failing
  dsimp only

theorem run_revoke (fails : Operation → String → Bool) (c : Claims) (store : Store) :
    (revoke (m.failing fails) c).run (m.failing fails).context store =
      if c.Listable m.around.clock ∧ fails .setFlag (Key.revoked c.jti).text = true then
        (.error Counter.unavailable, store)
      else (.ok (), entered m.around.clock store c) := by
  have hlistable : c.Listable m.around.clock ↔ _ := Claims.listable_iff m.started
  have hclock : (m.failing fails).clock = m.around.clock := rfl
  unfold revoke Revocation.revoke
  rw [hclock]
  split
  · rename_i hidle
    have hnot : ¬c.Listable m.around.clock := fun h => hlistable.mp h hidle
    unfold entered
    simp only [hnot, false_and, if_false]
    rfl
  · rename_i hidle
    have h : c.Listable m.around.clock := hlistable.mpr hidle
    rw [Action.setFlag, Action.run_call, ← setFlag_remainingLifetime store m.started h]
    simp only [h, true_and]
    rfl

theorem run_logout (around : Surroundings) (context : Counter.Context) (access : Claims)
    (refresh : String) (store : Store) :
    (logout settings around access refresh).run context store =
      if access.kind = .access then
        let ended := ((revoke around access).run context store).2
        match verified settings around .refresh refresh with
        | .error _ => (.ok (), ended)
        | .ok c =>
          if c.subject = access.subject then (.ok (), ((revoke around c).run context ended).2)
          else (.error (.token .mismatch), ended)
      else (.error .tokenInvalid, store) := by
  unfold logout
  by_cases hkind : access.kind = .access
  · simp only [hkind, ne_eq, not_true_eq_false, if_false, if_true, Action.run_bind,
      Action.run_attempt]
    cases verified settings around .refresh refresh with
    | error e => rfl
    | ok c =>
      by_cases hsubject : c.subject = access.subject
      · simp only [hsubject, not_true_eq_false, if_false, if_true, Action.run_bind,
          Action.run_attempt, Action.run_pure]
      · simp only [hsubject, not_false_eq_true, if_false, if_true, Action.run_bind,
          Action.run_throw]
  · simp only [hkind, ne_eq, not_false_eq_true, if_false, if_true, Action.run_bind,
      Action.run_throw]

/-- The user to whom the claims still entitle at this moment. -/
def holder (c : Claims) : Except Error UserId :=
  match c.userId with
  | .error _ => .error .tokenInvalid
  | .ok id =>
    match m.around.directory.byId id with
    | .error e => .error e
    | .ok none => .error .tokenInvalid
    | .ok (some user) => .ok user.id

theorem run_redeem (fails : Operation → String → Bool) (token : String) (store : Store) :
    (redeem settings (m.failing fails) token).run (m.failing fails).context store =
      match (accepted settings (m.failing fails) .refresh token).run (m.failing fails).context
        store with
      | (.error e, store) => (.error e, store)
      | (.ok c, store) =>
        match m.holder c with
        | .error e => (.error e, store)
        | .ok id =>
          if settings.rotate = true ∧ c.Listable m.around.clock ∧
              fails .setFlag (Key.revoked c.jti).text = true then
            (.error Counter.unavailable, store)
          else (.ok id, if settings.rotate then entered m.around.clock store c else store) := by
  unfold redeem
  rw [Action.run_bind]
  rcases (accepted settings (m.failing fails) .refresh token).run (m.failing fails).context store
    with ⟨_ | c, store⟩
  · rfl
  · have hdirectory : (m.failing fails).directory = m.around.directory := rfl
    unfold holder
    simp only [Action.run_bind, hdirectory]
    cases c.userId with
    | error e => rfl
    | ok id =>
      have hid : (Except.ok id : Except Error UserId).mapError
          (fun _ => Error.tokenInvalid) = .ok id := rfl
      simp only [hid, Action.run_lift]
      cases m.around.directory.byId id with
      | error e => rfl
      | ok found =>
        cases found with
        | none => rfl
        | some user =>
          cases settings.rotate with
          | true =>
            simp only [if_true, Action.run_bind, run_revoke, Action.run_pure, true_and]
            by_cases hfails : c.Listable m.around.clock ∧
                fails .setFlag (Key.revoked c.jti).text = true
            · simp only [if_pos hfails]
            · simp only [if_neg hfails]
          | false => rfl

/-! ## What an event enters -/

/-- The refresh token that a logout ends along with the access token. -/
def partner (access : Claims) (refresh : String) : Option Claims :=
  match verified settings m.around .refresh refresh with
  | .error _ => none
  | .ok c => if c.subject = access.subject then some c else none

/-- The refresh token that an exchange uses up. -/
def usedUp (token : String) : Option Claims :=
  match m.taken settings .refresh token with
  | .error _ => none
  | .ok c => if settings.rotate ∧ (m.holder c).isOk then some c else none

/-- The claims that an event hands to the list of revoked ids, in order. -/
def handedIn : Event → List Claims
  | .logout access refresh =>
    if access.kind = .access then access :: (m.partner settings access refresh).toList else []
  | .refresh token => (m.usedUp settings token).toList
  | _ => []

variable {settings m} {jti : String} {later : Uptime}

theorem partner_eq_some_iff {access c : Claims} {refresh : String} :
    m.partner settings access refresh = some c ↔
      verified settings m.around .refresh refresh = .ok c ∧ c.subject = access.subject := by
  unfold partner
  cases verified settings m.around .refresh refresh with
  | error e => simp
  | ok d =>
    by_cases h : d.subject = access.subject
    · simp only [if_pos h, Option.some.injEq, Except.ok.injEq]
      constructor
      · rintro rfl
        exact ⟨rfl, h⟩
      · exact And.left
    · simp only [if_neg h, reduceCtorEq, Except.ok.injEq, false_iff]
      rintro ⟨rfl, hsubject⟩
      exact h hsubject

theorem handedIn_logout {access : Claims} {refresh : String} (hkind : access.kind = .access) :
    m.handedIn settings (.logout access refresh) =
      access :: (m.partner settings access refresh).toList :=
  if_pos hkind

theorem mem_handedIn_logout {access c : Claims} {refresh : String} :
    c ∈ m.handedIn settings (.logout access refresh) ↔
      access.kind = .access ∧ (c = access ∨ m.partner settings access refresh = some c) := by
  by_cases hkind : access.kind = .access
  · rw [handedIn_logout hkind, List.mem_cons, Option.mem_toList]
    simp only [hkind, true_and]
  · have hnone : m.handedIn settings (.logout access refresh) = [] := if_neg hkind
    simp only [hnone, List.not_mem_nil, hkind, false_and]

theorem run_revoke_sound (c : Claims) (store : Store) :
    (revoke m.around c).run m.around.context store =
      (.ok (), entered m.around.clock store c) := by
  have hworks : m.around.fails .setFlag (Key.revoked c.jti).text = false := by rw [m.sound]
  have hrun := m.run_revoke m.around.fails c store
  simp only [hworks, Bool.false_eq_true, and_false, if_false, failing_fails] at hrun
  exact hrun

theorem store_logout (access : Claims) (refresh : String) (store : Store) :
    ((logout settings m.around access refresh).run m.around.context store).2 =
      (m.handedIn settings (.logout access refresh)).foldl (entered m.around.clock) store := by
  rw [run_logout]
  unfold handedIn partner
  by_cases hkind : access.kind = .access
  · simp only [hkind, if_true, run_revoke_sound]
    cases verified settings m.around .refresh refresh with
    | error e => rfl
    | ok c =>
      by_cases hsubject : c.subject = access.subject
      · simp only [hsubject, if_true]
        rfl
      · simp only [hsubject, if_false]
        rfl
  · simp only [hkind, if_false]
    rfl

theorem store_step_logout (access : Claims) (refresh : String) :
    (m.step settings (.logout access refresh)).state.store =
      (m.handedIn settings (.logout access refresh)).foldl (entered m.around.clock)
        m.state.store := by
  rw [← store_logout]
  rfl

theorem spares_bookkeeping (guard : Guard.Config) (job : Bookkeeping) :
    Action.Spares (Key.revoked jti).text (job.run guard) := by
  cases job with
  | failure username origin =>
    refine .bind (Guard.spares_recordFailure ?_ ?_) fun _ => Action.spares_pure _
    · exact Guard.spares_recordUserFailure (by simp) (by simp)
    · exact Guard.spares_recordOriginFailure (by simp) (by simp) (by simp)
  | success username origin =>
    refine .bind (Guard.spares_clearOnSuccess ?_ ?_ ?_).attempt fun _ => Action.spares_pure _
    · simp
    · simp
    · simp

theorem live?_work (s : State) {around : Surroundings} (hlater : around.clock.uptime ≤ later) :
    (s.work settings around).store.live? later (Key.revoked jti).text =
      s.store.live? later (Key.revoked jti).text := by
  unfold State.work
  split
  · rfl
  · rename_i job pool _
    exact spares_bookkeeping settings.guard job around.context s.store later hlater

theorem live?_drain (s : State) {around : Surroundings} (hlater : around.clock.uptime ≤ later) :
    (s.drain settings around).store.live? later (Key.revoked jti).text =
      s.store.live? later (Key.revoked jti).text := by
  change Store.live? (s.pool.queued.foldl _ s.store) later _ = _
  generalize s.store = store
  induction s.pool.queued generalizing store with
  | nil => rfl
  | cons job jobs ih =>
    rw [List.foldl_cons, ih]
    exact spares_bookkeeping settings.guard job around.context store later hlater

theorem live?_perform {α : Type} {a : Action α} (ha : Action.Spares (Key.revoked jti).text a)
    (hlater : m.uptime ≤ later) :
    (m.perform a).state.store.live? later (Key.revoked jti).text =
      m.state.store.live? later (Key.revoked jti).text :=
  m.state.live?_run ha hlater

theorem run_redeem_sound (token : String) (store : Store) :
    (redeem settings m.around token).run m.around.context store =
      match (accepted settings m.around .refresh token).run m.around.context store with
      | (.error e, store) => (.error e, store)
      | (.ok c, store) =>
        match m.holder c with
        | .error e => (.error e, store)
        | .ok id =>
          (.ok id, if settings.rotate then entered m.around.clock store c else store) := by
  have hworks (key : String) : m.around.fails .setFlag key = false := by rw [m.sound]
  have hrun := m.run_redeem settings m.around.fails token store
  simp only [hworks, Bool.false_eq_true, and_false, if_false, failing_fails] at hrun
  exact hrun

/-- An exchange leaves the store as if it had only entered what it uses up; reading the list may
have removed a slot that no reader sees. -/
theorem live?_refresh (token : String) (hlater : m.uptime ≤ later) (key : String) :
    (m.step settings (.refresh token)).state.store.live? later key =
      ((m.handedIn settings (.refresh token)).foldl (entered m.around.clock)
        m.state.store).live? later key := by
  have hstep : (m.step settings (.refresh token)).state.store =
      ((redeem settings m.around token).run m.around.context m.state.store).2 := by
    simp only [step, State.store_refresh, State.store_run]
  have hread : ((accepted settings m.around .refresh token).run m.around.context
      m.state.store).2.live? later key = m.state.store.live? later key :=
    spares_accepted m.around.context m.state.store later hlater
  have hhanded : m.handedIn settings (.refresh token) = (m.usedUp settings token).toList := rfl
  rw [hstep, run_redeem_sound, hhanded]
  unfold usedUp
  rw [← answer_accepted]
  generalize (accepted settings m.around .refresh token).run m.around.context m.state.store = run
    at hread ⊢
  obtain ⟨_ | c, store⟩ := run
  · exact hread
  · cases hholder : m.holder c with
    | error e =>
      simp only [hholder, Except.isOk, Except.toBool, Bool.false_eq_true, and_false, if_false]
      exact hread
    | ok id =>
      cases settings.rotate with
      | false =>
        simp only [hholder, Bool.false_eq_true, false_and, if_false]
        exact hread
      | true =>
        simp only [hholder, Except.isOk, Except.toBool, and_self, if_true]
        exact live?_entered_congr hread c

/-- One event, as later readers of an id's entry see it. -/
theorem live?_step (e : Event) (hlater : (m.step settings e).uptime ≤ later) :
    (m.step settings e).state.store.live? later (Key.revoked jti).text =
      ((m.handedIn settings e).foldl (entered m.around.clock) m.state.store).live? later
        (Key.revoked jti).text := by
  have hnow : m.uptime ≤ later := Nat.le_trans (uptime_le_step settings m e) hlater
  cases e with
  | login request origin =>
    simp only [step, State.store_login]
    exact m.state.live?_run spares_attempt hnow
  | refresh token => exact live?_refresh token hnow _
  | authenticate token => exact live?_perform spares_accepted hnow
  | logout access refresh => rw [store_step_logout]
  | unlock username => exact live?_perform (Guard.spares_unlockUser (by simp) (by simp)) hnow
  | unblock origin => exact live?_perform (Guard.spares_unblockOrigin (by simp) (by simp)) hnow
  | work => exact live?_work m.state hnow
  | drain => exact live?_drain m.state hnow
  | shutdown => exact live?_drain m.state hnow
  | purge => exact m.state.store.live?_purge hnow
  | change directory verifier => rfl
  | advance span => rfl

end Moment

end Service

end Gatehouse
