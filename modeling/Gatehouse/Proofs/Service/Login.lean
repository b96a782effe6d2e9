import Gatehouse.Proofs.Guard.Reading
import Gatehouse.Proofs.Service.Run
import Gatehouse.Proofs.Token.Issued

/-! What a login decides. Before any password is compared, four things may end it: a malformed
request, a counter that cannot be read (two of them are), and a look-up that fails. Past them, one
password is compared, one change of the counters is handed to the pool, and tokens are issued only
to a user who exists and is not locked, from an origin that is not blocked, if the comparison
succeeds. -/
namespace Gatehouse.Service

open Counter (Action Key Store)

section

variable {settings : Settings} {around : Surroundings} {s : State}

/-! ## The pair that is issued -/

theorem State.issuePair_eq_ok {user : UserId} {pair : Token.Pair}
    (h : (s.issuePair settings around user).1 = .ok pair) :
    ∃ access refresh,
      Token.issue settings.tokens .access user (around.ids s.drawn) around.clock.wall =
        some access ∧
      Token.issue settings.tokens .refresh user (around.ids (s.drawn + 1)) around.clock.wall =
        some refresh ∧
      pair = .ofIssued access refresh := by
  unfold issuePair at h
  simp only [] at h
  split at h
  · rename_i access refresh hpair
    obtain ⟨haccess, hrefresh⟩ := Token.issuePair_eq_some hpair
    cases h
    exact ⟨access, refresh, haccess, hrefresh, rfl⟩
  · contradiction

/-- Whether both tokens would expire in the supported years. -/
def inCalendar (settings : Settings) (clock : Clock) : Bool :=
  (clock.wall.shift? settings.tokens.accessLifetime).isSome &&
    (clock.wall.shift? settings.tokens.refreshLifetime).isSome

theorem State.exists_issuePair_eq_ok (user : UserId)
    (h : inCalendar settings around.clock = true) :
    ∃ pair, (s.issuePair settings around user).1 = .ok pair := by
  unfold inCalendar at h
  rw [Bool.and_eq_true] at h
  have hissued : (Token.issue settings.tokens .access user (around.ids s.drawn)
      around.clock.wall).isSome = true := Token.isSome_issue.trans h.1
  have hissued' : (Token.issue settings.tokens .refresh user (around.ids (s.drawn + 1))
      around.clock.wall).isSome = true := Token.isSome_issue.trans h.2
  obtain ⟨access, haccess⟩ := Option.isSome_iff_exists.mp hissued
  obtain ⟨refresh, hrefresh⟩ := Option.isSome_iff_exists.mp hissued'
  refine ⟨.ofIssued access refresh, ?_⟩
  simp only [issuePair, Token.issuePair, haccess, hrefresh, Option.bind_eq_bind, Option.bind_some]
  rfl

/-- Whether a pair is issued does not depend on the user, nor on the ids that are drawn for it. -/
theorem State.map_issuePair {α : Type} (user : UserId) (value : α) :
    (s.issuePair settings around user).1.map (fun _ => value) =
      if inCalendar settings around.clock then .ok value else .error .beyondCalendar := by
  have haccess : (Token.issue settings.tokens .access user (around.ids s.drawn)
      around.clock.wall).isSome =
        (around.clock.wall.shift? settings.tokens.accessLifetime).isSome := Token.isSome_issue
  have hrefresh : (Token.issue settings.tokens .refresh user (around.ids (s.drawn + 1))
      around.clock.wall).isSome =
        (around.clock.wall.shift? settings.tokens.refreshLifetime).isSome := Token.isSome_issue
  unfold inCalendar issuePair Token.issuePair
  rw [← haccess, ← hrefresh]
  cases Token.issue settings.tokens .access user (around.ids s.drawn) around.clock.wall with
  | none => rfl
  | some access =>
    cases Token.issue settings.tokens .refresh user (around.ids (s.drawn + 1))
        around.clock.wall with
    | none => rfl
    | some refresh => rfl

/-- Whether both tokens of a pair are signed for a user. -/
def NamesUser (settings : Settings) (pair : Token.Pair) (user : UserId) : Prop :=
  (∃ c, Token.open? (settings.tokens.secret .access) pair.access.toList = some c ∧
    c.kind = .access ∧ c.subject = user.text) ∧
  ∃ c, Token.open? (settings.tokens.secret .refresh) pair.refresh.toList = some c ∧
    c.kind = .refresh ∧ c.subject = user.text

theorem State.namesUser_issuePair {user : UserId} {pair : Token.Pair}
    (h : (s.issuePair settings around user).1 = .ok pair) : NamesUser settings pair user := by
  obtain ⟨access, refresh, haccess, hrefresh, rfl⟩ := issuePair_eq_ok h
  exact ⟨⟨_, Token.open?_issue haccess, rfl, rfl⟩, ⟨_, Token.open?_issue hrefresh, rfl, rfl⟩⟩

/-! ## The comparison -/

/-- Whether a user is let in: it exists and is not locked, the origin is not blocked, and the
comparison with the stored hash succeeds. -/
def LetsIn (verifier : Verifier) (password : String) (user : Option User) (locked blocked : Bool)
    (u : User) : Prop :=
  user = some u ∧ locked = false ∧ blocked = false ∧
    verifier password (.stored u.passwordHash) = .ok ()

variable {verifier : Verifier} {request : LoginRequest} {origin : String} {user : Option User}
  {locked blocked : Bool}

theorem candidate_eq_stored_iff {hash : String} :
    candidate user locked = .stored hash ↔
      ∃ u, user = some u ∧ locked = false ∧ u.passwordHash = hash := by
  unfold candidate
  cases user <;> cases locked <;> simp

theorem judge_of_letsIn {u : User}
    (h : LetsIn verifier request.password user locked blocked u) :
    judge verifier request origin user locked blocked =
      ⟨.ok u, some (request.password, .stored u.passwordHash),
        some (.success request.username origin)⟩ := by
  obtain ⟨rfl, rfl, rfl, hverdict⟩ := h
  simp [judge, candidate, hverdict]

/-- The error of a comparison; one that succeeds for nobody gives the same as one that fails. -/
def refusal : Except Error Unit → Error
  | .ok () => .invalidCredentials
  | .error e => e

theorem judge_of_not_letsIn
    (h : ∀ u, ¬LetsIn verifier request.password user locked blocked u) :
    judge verifier request origin user locked blocked =
      ⟨.error (refusal (verifier request.password (candidate user locked))),
        some (request.password, candidate user locked),
        some (.failure request.username origin)⟩ := by
  unfold judge
  simp only []
  cases hverdict : verifier request.password (candidate user locked) with
  | error e =>
    by_cases he : e = .invalidCredentials
    · simp [he, refusal]
    · simp [he, refusal]
  | ok =>
    cases user with
    | none => rfl
    | some u =>
      have hkept : locked = true ∨ blocked = true := by
        cases locked with
        | true => exact .inl rfl
        | false =>
          cases blocked with
          | true => exact .inr rfl
          | false => exact absurd ⟨rfl, rfl, rfl, hverdict⟩ (h u)
      simp [hkept, refusal]

/-! ## The attempt -/

/-- The attempt once both counters were read, with or without success. -/
def attemptAfter (around : Surroundings) (request : LoginRequest) (origin : String) :
    Except Error Bool → Except Error Guard.OriginBlock → Attempt
  | .error e, _ => .stopped e
  | .ok _, .error e => .stopped e
  | .ok locked, .ok block =>
    match around.directory.byUsername request.username with
    | .error e => .stopped e
    | .ok user => judge around.verifier request origin user locked block.blocked

/-- What the first counter says, and the store after it was read. -/
def lockReading (settings : Settings) (around : Surroundings) (store : Store) (username : String) :
    Except Error Bool × Store :=
  (Guard.isUserLocked settings.guard username).run around.context store

/-- What the second counter says, and the store after it was read. -/
def blockReading (settings : Settings) (around : Surroundings) (store : Store) (origin : String) :
    Except Error Guard.OriginBlock × Store :=
  (Guard.originBlock settings.guard origin).run around.context store

def isLocked (settings : Settings) (now : Uptime) (store : Store) (username : String) : Bool :=
  settings.guard.enabled && (store.live? now (Key.userLock username).text).isSome

def isBlocked (settings : Settings) (now : Uptime) (store : Store) (origin : String) : Bool :=
  settings.guard.enabled && (store.live? now (Key.originBlock origin).text).isSome

theorem lockReading_of_sound (settings : Settings) (hsound : around.fails = fun _ _ => false)
    (store : Store) (username : String) :
    (lockReading settings around store username).1 =
      .ok (isLocked settings around.clock.uptime store username) := by
  unfold lockReading isLocked
  rw [around.context_of_sound hsound, Guard.run_isUserLocked]
  cases settings.guard.enabled <;> rfl

theorem blockReading_of_sound (settings : Settings) (hsound : around.fails = fun _ _ => false)
    (store : Store) (origin : String) :
    ∃ block, (blockReading settings around store origin).1 = .ok block ∧
      block.blocked = isBlocked settings around.clock.uptime store origin := by
  unfold blockReading isBlocked
  rw [around.context_of_sound hsound, Guard.run_originBlock]
  cases settings.guard.enabled with
  | false => exact ⟨.none, rfl, rfl⟩
  | true =>
    refine ⟨_, rfl, ?_⟩
    unfold Guard.blockOf
    cases store.live? around.clock.uptime (Key.originBlock origin).text <;> rfl

theorem isBlocked_lockReading (store : Store) (username origin : String) :
    isBlocked settings around.clock.uptime (lockReading settings around store username).2 origin =
      isBlocked settings around.clock.uptime store origin := by
  have hspares : (lockReading settings around store username).2.live? around.clock.uptime
      (Key.originBlock origin).text =
        store.live? around.clock.uptime (Key.originBlock origin).text :=
    Guard.spares_isUserLocked around.context store _ (Nat.le_refl _)
  unfold isBlocked
  rw [hspares]

theorem run_attempt (store : Store) :
    (attempt settings around request origin).run around.context store =
      match request.sanitize with
      | .error e => (.ok (.stopped (.validation e)), store)
      | .ok r =>
        let lock := lockReading settings around store r.username
        let block := blockReading settings around lock.2 origin
        (.ok (attemptAfter around r origin lock.1 block.1), block.2) := by
  unfold attempt lockReading blockReading attemptAfter
  cases request.sanitize with
  | error e => rfl
  | ok r =>
    simp only [Action.run_bind, Action.run_attempt]
    rcases (Guard.isUserLocked settings.guard r.username).run around.context store
      with ⟨lock, middle⟩
    rcases (Guard.originBlock settings.guard origin).run around.context middle with ⟨block, last⟩
    cases lock with
    | error e => rfl
    | ok locked =>
      cases block with
      | error e => rfl
      | ok block =>
        cases around.directory.byUsername r.username with
        | error e => simp only [Action.run_pure]
        | ok user => simp only [Action.run_pure]

/-- What is left to do once an attempt has come out. -/
def State.conclude (s : State) (settings : Settings) (around : Surroundings) (a : Attempt) :
    Login × State :=
  match a.verdict with
  | .error e => (⟨.error (.error e), a.compared⟩, s.submit a.job)
  | .ok user =>
    let issued := (s.submit a.job).issuePair settings around user.id
    (⟨issued.1.map fun tokens => ⟨user, tokens⟩, a.compared⟩, issued.2)

theorem State.compared_conclude (a : Attempt) :
    (s.conclude settings around a).1.compared = a.compared := by
  obtain ⟨_ | _, _, _⟩ := a <;> rfl

theorem State.pool_conclude (a : Attempt) :
    (s.conclude settings around a).2.pool = (s.submit a.job).pool := by
  obtain ⟨_ | _, _, _⟩ := a <;> rfl

theorem State.login_of_sanitize_error {e : ValidationError} (h : request.sanitize = .error e) :
    s.login settings around request origin = (⟨.error (.error (.validation e)), none⟩, s) := by
  unfold login State.run
  rw [run_attempt, h]
  rfl

theorem State.login_of_sanitize_ok {r : LoginRequest} (h : request.sanitize = .ok r) :
    s.login settings around request origin =
      let lock := lockReading settings around s.store r.username
      let block := blockReading settings around lock.2 origin
      { s with store := block.2 }.conclude settings around
        (attemptAfter around r origin lock.1 block.1) := by
  unfold login State.run
  rw [run_attempt, h]
  simp only []
  generalize blockReading settings around _ origin = block
  generalize attemptAfter around r origin _ block.1 = a
  obtain ⟨verdict, compared, job⟩ := a
  cases verdict <;> rfl

theorem State.issuePair_of_conclude {a : Attempt} {response : LoginResponse}
    (h : (s.conclude settings around a).1.answer = .ok response) :
    ∃ s' : State, s'.drawn = s.drawn ∧
      (s'.issuePair settings around response.user.id).1 = .ok response.tokens := by
  obtain ⟨verdict, compared, job⟩ := a
  cases verdict with
  | error e => contradiction
  | ok user =>
    unfold conclude at h
    simp only [] at h
    cases hpair : ((s.submit job).issuePair settings around user.id).1 with
    | error e =>
      rw [hpair] at h
      contradiction
    | ok pair =>
      rw [hpair] at h
      cases h
      exact ⟨s.submit job, s.drawn_submit job, hpair⟩

theorem State.issuePair_of_login {response : LoginResponse}
    (h : (s.login settings around request origin).1.answer = .ok response) :
    ∃ s' : State, s'.drawn = s.drawn ∧
      (s'.issuePair settings around response.user.id).1 = .ok response.tokens := by
  cases hr : request.sanitize with
  | error e =>
    rw [login_of_sanitize_error hr] at h
    contradiction
  | ok r =>
    rw [login_of_sanitize_ok hr] at h
    obtain ⟨s', hdrawn, hpair⟩ := issuePair_of_conclude h
    exact ⟨s', hdrawn, hpair⟩

/-- A login ends with an error before any password is compared: no verifier makes a difference, and
neither the pool nor the ids of tokens are touched. -/
def StopsWith (s : State) (settings : Settings) (around : Surroundings) (request : LoginRequest)
    (origin : String) (e : Error) : Prop :=
  ∀ verifier,
    let login := s.login settings { around with verifier } request origin
    login.1 = ⟨.error (.error e), none⟩ ∧ login.2.pool = s.pool ∧ login.2.drawn = s.drawn

/-- A login gets as far as comparing the password of a checked request. -/
structure Compares (s : State) (settings : Settings) (around : Surroundings)
    (request : LoginRequest) (origin : String) (r : LoginRequest) (user : Option User)
    (locked blocked : Bool) : Prop where
  /-- One comparison is made. -/
  compared : (s.login settings around request origin).1.compared =
    some (r.password, candidate user locked)
  stored_iff (hash : String) : candidate user locked = .stored hash ↔
    ∃ u, user = some u ∧ locked = false ∧ u.passwordHash = hash
  dummy : (∀ u, ¬(user = some u ∧ locked = false)) → candidate user locked = .dummy
  /-- Nothing but the outcome of that comparison matters of the verifier. -/
  only (verifier : Verifier)
    (h : verifier r.password (candidate user locked) =
      around.verifier r.password (candidate user locked)) :
    s.login settings { around with verifier } request origin =
      s.login settings around request origin
  letIn (u : User) (h : LetsIn around.verifier r.password user locked blocked u) :
    (s.login settings around request origin).2.drawn = s.drawn + 2 ∧
      (inCalendar settings around.clock = true →
        ∃ pair, (s.login settings around request origin).1.answer = .ok ⟨u, pair⟩ ∧
          NamesUser settings pair u.id)
  refused (h : ∀ u, ¬LetsIn around.verifier r.password user locked blocked u) :
    (s.login settings around request origin).2.drawn = s.drawn ∧
      (s.login settings around request origin).1.answer = .error (.error
        (refusal (around.verifier r.password (candidate user locked))))
  /-- One change of the counters is handed to the pool. -/
  submitted : ∃ job, (s.login settings around request origin).2.pool = (s.pool.submit job).2 ∧
    (job = .success r.username origin ∨ job = .failure r.username origin) ∧
    (job = .success r.username origin ↔
      ∃ u, LetsIn around.verifier r.password user locked blocked u)

theorem candidate_of_letsIn {password : String} {u : User}
    (h : LetsIn verifier password user locked blocked u) :
    candidate user locked = .stored u.passwordHash := by
  rw [candidate_eq_stored_iff]
  exact ⟨u, h.1, h.2.1, rfl⟩

theorem candidate_eq_dummy (h : ∀ u, ¬(user = some u ∧ locked = false)) :
    candidate user locked = .dummy := by
  cases hcandidate : candidate user locked with
  | dummy => rfl
  | stored hash =>
    obtain ⟨u, huser, hlocked, _⟩ := candidate_eq_stored_iff.mp hcandidate
    exact absurd ⟨huser, hlocked⟩ (h u)

theorem compared_judge :
    (judge verifier request origin user locked blocked).compared =
      some (request.password, candidate user locked) := by
  by_cases h : ∃ u, LetsIn verifier request.password user locked blocked u
  · obtain ⟨u, hu⟩ := h
    rw [judge_of_letsIn hu, candidate_of_letsIn hu]
  · rw [judge_of_not_letsIn fun u hu => h ⟨u, hu⟩]

theorem judge_congr {other : Verifier}
    (h : other request.password (candidate user locked) =
      verifier request.password (candidate user locked)) :
    judge other request origin user locked blocked =
      judge verifier request origin user locked blocked := by
  unfold judge
  simp only [h]

theorem State.login_of_readings {r : LoginRequest} {block : Guard.OriginBlock}
    (hr : request.sanitize = .ok r)
    (hlock : (lockReading settings around s.store r.username).1 = .ok locked)
    (hblock : (blockReading settings around
      (lockReading settings around s.store r.username).2 origin).1 = .ok block)
    (huser : around.directory.byUsername r.username = .ok user) (verifier : Verifier) :
    s.login settings { around with verifier } request origin =
      { s with store := (blockReading settings around
          (lockReading settings around s.store r.username).2 origin).2 }.conclude settings around
        (judge verifier r origin user locked block.blocked) := by
  rw [login_of_sanitize_ok hr]
  change conclude _ settings around (attemptAfter { around with verifier } r origin
    (lockReading settings around s.store r.username).1 (blockReading settings around
      (lockReading settings around s.store r.username).2 origin).1) = _
  rw [hlock, hblock]
  unfold attemptAfter
  simp only [huser]
  rfl

theorem compares_of_readings {r : LoginRequest} {block : Guard.OriginBlock}
    (hr : request.sanitize = .ok r)
    (hlock : (lockReading settings around s.store r.username).1 = .ok locked)
    (hblock : (blockReading settings around
      (lockReading settings around s.store r.username).2 origin).1 = .ok block)
    (huser : around.directory.byUsername r.username = .ok user) :
    Compares s settings around request origin r user locked block.blocked := by
  have hlogin : ∀ verifier, s.login settings { around with verifier } request origin = _ :=
    State.login_of_readings hr hlock hblock huser
  have hself : s.login settings around request origin = _ := hlogin around.verifier
  constructor
  case compared => rw [hself, State.compared_conclude, compared_judge]
  case stored_iff => exact fun hash => candidate_eq_stored_iff
  case dummy => exact candidate_eq_dummy
  case only =>
    intro verifier h
    rw [hlogin verifier, hself, judge_congr h]
  case letIn =>
    intro u hu
    rw [hself, judge_of_letsIn hu]
    refine ⟨rfl, fun hcalendar => ?_⟩
    obtain ⟨pair, hpair⟩ := State.exists_issuePair_eq_ok u.id hcalendar
    exact ⟨pair, congrArg (Except.map fun tokens => (⟨u, tokens⟩ : LoginResponse)) hpair,
      State.namesUser_issuePair hpair⟩
  case refused =>
    intro h
    rw [hself, judge_of_not_letsIn h]
    exact ⟨rfl, rfl⟩
  case submitted =>
    rw [hself, State.pool_conclude]
    by_cases h : ∃ u, LetsIn around.verifier r.password user locked block.blocked u
    · obtain ⟨u, hu⟩ := h
      rw [judge_of_letsIn hu]
      exact ⟨.success r.username origin, rfl, .inl rfl, iff_of_true rfl ⟨u, hu⟩⟩
    · rw [judge_of_not_letsIn fun u hu => h ⟨u, hu⟩]
      exact ⟨.failure r.username origin, rfl, .inr rfl, iff_of_false (by simp) h⟩

theorem stopsWith_of_sanitize {e : ValidationError} (h : request.sanitize = .error e) :
    StopsWith s settings around request origin (.validation e) := by
  intro verifier login
  have hlogin : login = (⟨.error (.error (.validation e)), none⟩, s) :=
    State.login_of_sanitize_error h
  rw [hlogin]
  exact ⟨rfl, rfl, rfl⟩

theorem stopsWith_of_stopped {r : LoginRequest} {e : Error} (hr : request.sanitize = .ok r)
    (h : ∀ verifier, attemptAfter { around with verifier } r origin
      (lockReading settings around s.store r.username).1
      (blockReading settings around
        (lockReading settings around s.store r.username).2 origin).1 = .stopped e) :
    StopsWith s settings around request origin e := by
  intro verifier login
  have hlogin : login = (⟨.error (.error e), none⟩,
      { s with store := (blockReading settings around
        (lockReading settings around s.store r.username).2 origin).2 }) := by
    change s.login settings { around with verifier } request origin = _
    rw [State.login_of_sanitize_ok hr]
    change State.conclude _ settings _ (attemptAfter { around with verifier } r origin
      (lockReading settings around s.store r.username).1 (blockReading settings around
        (lockReading settings around s.store r.username).2 origin).1) = _
    rw [h verifier]
    rfl
  rw [hlogin]
  exact ⟨rfl, rfl, rfl⟩

theorem stopsWith_of_lock {r : LoginRequest} {e : Error} (hr : request.sanitize = .ok r)
    (hlock : (lockReading settings around s.store r.username).1 = .error e) :
    StopsWith s settings around request origin e := by
  apply stopsWith_of_stopped hr
  intro verifier
  rw [hlock]
  rfl

theorem stopsWith_of_block {r : LoginRequest} {e : Error} (hr : request.sanitize = .ok r)
    (hlock : (lockReading settings around s.store r.username).1 = .ok locked)
    (hblock : (blockReading settings around
      (lockReading settings around s.store r.username).2 origin).1 = .error e) :
    StopsWith s settings around request origin e := by
  apply stopsWith_of_stopped hr
  intro verifier
  rw [hlock, hblock]
  rfl

theorem stopsWith_of_lookup {r : LoginRequest} {block : Guard.OriginBlock} {e : Error}
    (hr : request.sanitize = .ok r)
    (hlock : (lockReading settings around s.store r.username).1 = .ok locked)
    (hblock : (blockReading settings around
      (lockReading settings around s.store r.username).2 origin).1 = .ok block)
    (huser : around.directory.byUsername r.username = .error e) :
    StopsWith s settings around request origin e := by
  apply stopsWith_of_stopped hr
  intro verifier
  rw [hlock, hblock]
  unfold attemptAfter
  simp only [huser]

/-- What a login decides, in every state and whatever its surroundings do. -/
theorem login_decision (s : State) (settings : Settings) (around : Surroundings)
    (request : LoginRequest) (origin : String) :
    (∀ e, request.sanitize = .error e →
      StopsWith s settings around request origin (.validation e)) ∧
    ∀ r, request.sanitize = .ok r →
      let lock := lockReading settings around s.store r.username
      let block := blockReading settings around lock.2 origin
      (∀ e, lock.1 = .error e → StopsWith s settings around request origin e) ∧
      ∀ locked, lock.1 = .ok locked →
        (∀ e, block.1 = .error e → StopsWith s settings around request origin e) ∧
        ∀ b, block.1 = .ok b →
          (∀ e, around.directory.byUsername r.username = .error e →
            StopsWith s settings around request origin e) ∧
          ∀ user, around.directory.byUsername r.username = .ok user →
            Compares s settings around request origin r user locked b.blocked := by
  refine ⟨fun e he => stopsWith_of_sanitize he, fun r hr => ?_⟩
  intro lock block
  refine ⟨fun e he => stopsWith_of_lock hr he, fun locked hlock => ?_⟩
  refine ⟨fun e he => stopsWith_of_block hr hlock he, fun b hblock => ?_⟩
  refine ⟨fun e he => stopsWith_of_lookup hr hlock hblock he, fun user huser => ?_⟩
  exact compares_of_readings hr hlock hblock huser

end

/-! ## A login to the sample service -/

namespace Sample

def request : LoginRequest := ⟨"alice", "correct horse"⟩

def origin : String := "203.0.113.7"

theorem sanitize_request : request.sanitize = .ok request := rfl

theorem lockReading_start :
    (lockReading settings start.around start.state.store request.username).1 = .ok false := by
  rw [lockReading_of_sound settings start.sound]
  unfold isLocked
  change Except.ok (_ && (Store.live? .empty _ _).isSome) = _
  rw [Store.live?_empty]
  rfl

theorem blockReading_start :
    ∃ block, (blockReading settings start.around
      (lockReading settings start.around start.state.store request.username).2 origin).1 =
        .ok block ∧ block.blocked = false := by
  obtain ⟨block, hblock, hblocked⟩ := blockReading_of_sound settings start.sound
    (lockReading settings start.around start.state.store request.username).2 origin
  refine ⟨block, hblock, hblocked.trans ?_⟩
  rw [isBlocked_lockReading]
  unfold isBlocked
  change (_ && (Store.live? .empty _ _).isSome) = _
  rw [Store.live?_empty]
  rfl

theorem letsIn_start : LetsIn start.around.verifier request.password (some user) false false user :=
  ⟨rfl, rfl, rfl, by decide⟩

theorem login_start :
    ∃ pair, (start.state.login settings start.around request origin).1.answer = .ok ⟨user, pair⟩ ∧
      NamesUser settings pair user.id := by
  obtain ⟨block, hblock, hblocked⟩ := blockReading_start
  obtain ⟨-, hread⟩ := (login_decision start.state settings start.around request origin).2 request
    sanitize_request
  obtain ⟨-, hfound⟩ := (hread false lockReading_start).2 block hblock
  have hcompares := hfound (some user) rfl
  rw [hblocked] at hcompares
  exact (hcompares.letIn user letsIn_start).2 (by decide)

end Sample

end Gatehouse.Service
