import Gatehouse.Proofs.Service.Login

/-! What a rejected login reveals. Attempts are made one after another, and the changes of the
counters are made after each. As long as every attempt is rejected and users can be looked up, what
is seen of it depends on the username, the origin, the time and the counters alone, not on the
users, on the hashes or on the password that was presented. -/
namespace Gatehouse.Service

open Counter (Store)

/-- The part of an attempt that is open. -/
structure Try where
  clock : Clock
  username : String
  origin : String

/-- The part of an attempt that is hidden: the password, and all that it is checked against. -/
structure Hidden where
  password : String
  directory : Directory
  verifier : Verifier
  ids : Nat → String
  shaped : checkPassword password = .ok ()
  verdicts : ∀ password candidate, verifier password candidate = .ok () ∨
    verifier password candidate = .error .invalidCredentials

/-- Whether every look-up by a username has an answer. -/
def Hidden.Answers (x : Hidden) : Prop :=
  ∀ username, ∃ user, x.directory.byUsername username = .ok user

structure Trace where
  answer : Except Refusal LoginResponse
  comparisons : Nat
  state : State

def Trace.IsRejected (trace : Trace) : Prop := ∃ e, trace.answer = .error (.error e)

def Try.around (t : Try) (x : Hidden) : Surroundings :=
  ⟨t.clock, fun _ _ => false, x.directory, x.verifier, x.ids⟩

/-- The surroundings of an attempt where nobody is known. -/
def Try.nobody (t : Try) : Surroundings where
  clock := t.clock
  fails _ _ := false
  directory := ⟨fun _ => .ok none, fun _ => .ok none, fun _ => .ok none⟩
  verifier _ _ := .error .invalidCredentials
  ids _ := ""

section

variable (settings : Settings)

/-- An attempt, after which the pool makes the changes that wait. -/
def trial (s : State) (t : Try) (x : Hidden) : Trace :=
  let login := s.login settings (t.around x) ⟨t.username, x.password⟩ t.origin
  ⟨login.1.answer, login.1.compared.toList.length, login.2.drain settings (t.around x)⟩

def trials (s : State) : List (Try × Hidden) → List Trace
  | [] => []
  | (t, x) :: rest =>
    trial settings s t x :: trials (trial settings s t x).state rest

/-- An attempt as it is rejected, told from its open part. -/
def rejection (s : State) (t : Try) : Trace :=
  match checkUsername t.username with
  | .error e => ⟨.error (.error (.validation e)), 0, s.drain settings t.nobody⟩
  | .ok username =>
    let lock := lockReading settings t.nobody s.store username
    let block := blockReading settings t.nobody lock.2 t.origin
    let s := { s with store := block.2 }.submit (some (.failure username t.origin))
    ⟨.error (.error .invalidCredentials), 1, s.drain settings t.nobody⟩

def rejections (s : State) : List Try → List Trace
  | [] => []
  | t :: rest => rejection settings s t :: rejections (rejection settings s t).state rest

/-- Whether the hidden part lets a user in under a checked username. -/
def Enters (s : State) (t : Try) (x : Hidden) (username : String) : Prop :=
  ∃ u, x.directory.byUsername username = .ok (some u) ∧
    isLocked settings t.clock.uptime s.store username = false ∧
    isBlocked settings t.clock.uptime s.store t.origin = false ∧
    x.verifier x.password (.stored u.passwordHash) = .ok ()

variable {settings} {s : State} {t : Try} {x : Hidden} {username : String}

theorem sanitize_of_checkUsername (h : checkUsername t.username = .ok username) :
    LoginRequest.sanitize ⟨t.username, x.password⟩ = .ok ⟨username, x.password⟩ := by
  simp only [LoginRequest.sanitize, h, x.shaped]
  rfl

theorem trial_of_malformed {e : ValidationError} (h : checkUsername t.username = .error e) :
    trial settings s t x = rejection settings s t := by
  have hsanitize : LoginRequest.sanitize ⟨t.username, x.password⟩ = .error e := by
    simp only [LoginRequest.sanitize, h]
    rfl
  unfold trial rejection
  rw [State.login_of_sanitize_error hsanitize, h]
  rfl

theorem exists_blockReading (settings : Settings) (s : State) (t : Try) (x : Hidden)
    (username : String) :
    ∃ block, (blockReading settings (t.around x)
        (lockReading settings (t.around x) s.store username).2 t.origin).1 = .ok block ∧
      block.blocked = isBlocked settings t.clock.uptime s.store t.origin := by
  have hsound : (t.around x).fails = fun _ _ => false := rfl
  obtain ⟨block, hblock, hblocked⟩ := blockReading_of_sound settings hsound
    (lockReading settings (t.around x) s.store username).2 t.origin
  rw [isBlocked_lockReading] at hblocked
  exact ⟨block, hblock, hblocked⟩

/-- A login under a checked username, once it is known who has it. -/
theorem login_of_checkUsername (settings : Settings) (s : State)
    (h : checkUsername t.username = .ok username) {user : Option User}
    (huser : x.directory.byUsername username = .ok user) :
    s.login settings (t.around x) ⟨t.username, x.password⟩ t.origin =
      { s with store := (blockReading settings t.nobody
          (lockReading settings t.nobody s.store username).2 t.origin).2 }.conclude settings
        (t.around x) (judge x.verifier ⟨username, x.password⟩ t.origin user
          (isLocked settings t.clock.uptime s.store username)
          (isBlocked settings t.clock.uptime s.store t.origin)) := by
  have hsound : (t.around x).fails = fun _ _ => false := rfl
  obtain ⟨block, hblock, hblocked⟩ := exists_blockReading settings s t x username
  rw [← hblocked]
  exact State.login_of_readings (sanitize_of_checkUsername h)
    (lockReading_of_sound settings hsound s.store username) hblock huser x.verifier

theorem trial_of_not_enters (hx : x.Answers) (h : checkUsername t.username = .ok username)
    (hout : ¬Enters settings s t x username) :
    trial settings s t x = rejection settings s t := by
  obtain ⟨user, huser⟩ := hx username
  have hlogin := login_of_checkUsername settings s h huser
  have hkept : ∀ u, ¬LetsIn x.verifier x.password user
      (isLocked settings t.clock.uptime s.store username)
      (isBlocked settings t.clock.uptime s.store t.origin) u := by
    rintro u ⟨rfl, hlock, hblock, hverdict⟩
    exact hout ⟨u, huser, hlock, hblock, hverdict⟩
  have hrefusal : refusal (x.verifier x.password (candidate user
      (isLocked settings t.clock.uptime s.store username))) = .invalidCredentials := by
    rcases x.verdicts x.password (candidate user
      (isLocked settings t.clock.uptime s.store username)) with hverdict | hverdict
    · rw [hverdict]
      rfl
    · rw [hverdict]
      rfl
  rw [judge_of_not_letsIn hkept, hrefusal] at hlogin
  unfold trial rejection
  rw [hlogin, h]
  rfl

theorem issuePair_ne_error (s : State) (around : Surroundings) (user : UserId) (e : Error) :
    (s.issuePair settings around user).1 ≠ .error (.error e) := by
  unfold State.issuePair
  simp only []
  split
  · simp
  · simp

theorem not_isRejected_of_enters (h : checkUsername t.username = .ok username)
    (hin : Enters settings s t x username) : ¬(trial settings s t x).IsRejected := by
  obtain ⟨u, hu, hlock, hblock, hverdict⟩ := hin
  have hlogin := login_of_checkUsername settings s h hu
  have hlets : LetsIn x.verifier x.password (some u)
      (isLocked settings t.clock.uptime s.store username)
      (isBlocked settings t.clock.uptime s.store t.origin) u :=
    ⟨rfl, hlock, hblock, hverdict⟩
  rintro ⟨e, he⟩
  unfold trial at he
  rw [hlogin, judge_of_letsIn hlets] at he
  simp only [State.conclude] at he
  cases hpair : ((State.submit _ _).issuePair settings (t.around x) u.id).1 with
  | error refusal =>
    rw [hpair] at he
    cases he
    exact issuePair_ne_error _ _ _ _ hpair
  | ok pair =>
    rw [hpair] at he
    cases he

theorem trial_of_isRejected (hx : x.Answers) (h : (trial settings s t x).IsRejected) :
    trial settings s t x = rejection settings s t := by
  cases husername : checkUsername t.username with
  | error e => exact trial_of_malformed husername
  | ok username =>
    exact trial_of_not_enters hx husername fun hin => not_isRejected_of_enters husername hin h

theorem trials_of_isRejected (attempts : List (Try × Hidden))
    (hanswers : ∀ attempt ∈ attempts, attempt.2.Answers)
    (h : ∀ trace ∈ trials settings s attempts, trace.IsRejected) :
    trials settings s attempts = rejections settings s (attempts.map Prod.fst) := by
  induction attempts generalizing s with
  | nil => rfl
  | cons attempt rest ih =>
    obtain ⟨t, x⟩ := attempt
    rw [trials] at h
    have hfirst := trial_of_isRejected (hanswers _ List.mem_cons_self) (h _ List.mem_cons_self)
    have hrest := ih (fun other hmem => hanswers other (List.mem_cons_of_mem _ hmem))
      (fun trace hmem => h trace (List.mem_cons_of_mem _ hmem))
    rw [trials, List.map_cons, rejections, hrest, hfirst]

theorem answer_rejection (s : State) (t : Try) :
    ((rejection settings s t).answer, (rejection settings s t).comparisons) =
      match checkUsername t.username with
      | .error e => (.error (.error (.validation e)), 0)
      | .ok _ => (.error (.error .invalidCredentials), 1) := by
  unfold rejection
  cases checkUsername t.username <;> rfl

/-- Rejected attempts are alike, one after another and whatever is hidden of them; and while a
username is locked or an origin is blocked, all attempts are. -/
theorem rejected_attempts_alike (settings : Settings) :
    (∀ (s : State) (left right : List (Try × Hidden)),
      left.map Prod.fst = right.map Prod.fst →
      (∀ attempt ∈ left ++ right, attempt.2.Answers) →
      (∀ trace ∈ trials settings s left, trace.IsRejected) →
      (∀ trace ∈ trials settings s right, trace.IsRejected) →
      trials settings s left = trials settings s right) ∧
    (∀ (s : State) (t : Try) (x : Hidden), x.Answers → (trial settings s t x).IsRejected →
      ((trial settings s t x).answer, (trial settings s t x).comparisons) =
        match checkUsername t.username with
        | .error e => (.error (.error (.validation e)), 0)
        | .ok _ => (.error (.error .invalidCredentials), 1)) ∧
    ∀ (s : State) (t : Try) (username : String), checkUsername t.username = .ok username →
      isLocked settings t.clock.uptime s.store username = true ∨
        isBlocked settings t.clock.uptime s.store t.origin = true →
      ∀ x y : Hidden, x.Answers → y.Answers →
        trial settings s t x = trial settings s t y := by
  refine ⟨?_, ?_, ?_⟩
  · intro s left right hopen hanswers hleft hright
    have hanswersLeft : ∀ attempt ∈ left, attempt.2.Answers :=
      fun attempt hmem => hanswers attempt (List.mem_append_left _ hmem)
    have hanswersRight : ∀ attempt ∈ right, attempt.2.Answers :=
      fun attempt hmem => hanswers attempt (List.mem_append_right _ hmem)
    rw [trials_of_isRejected left hanswersLeft hleft,
      trials_of_isRejected right hanswersRight hright, hopen]
  · intro s t x hx h
    rw [trial_of_isRejected hx h, answer_rejection]
  · intro s t username husername hkept x y hx hy
    have hout (z : Hidden) : ¬Enters settings s t z username := by
      rintro ⟨_, _, hlock, hblock, _⟩
      simp only [hlock, hblock, Bool.false_eq_true, or_self] at hkept
    rw [trial_of_not_enters hx husername (hout x), trial_of_not_enters hy husername (hout y)]

end

/-! ## A wrong password and an unknown user -/

namespace Sample

theorem verdicts (password : String) (candidate : Candidate) :
    verifier password candidate = .ok () ∨
      verifier password candidate = .error .invalidCredentials := by
  unfold verifier
  split
  · exact .inl rfl
  · exact .inr rfl

def outage : Error := .storage (.database "directory down")

/-- The right user with a wrong password. -/
def mistaken : Hidden where
  password := "battery staple"
  directory := directory
  verifier := verifier
  ids := start.around.ids
  shaped := rfl
  verdicts := verdicts

/-- A directory without users, asked with the right password of another. -/
def unknown : Hidden where
  password := request.password
  directory := { directory with byUsername := fun _ => .ok none }
  verifier := verifier
  ids := start.around.ids
  shaped := rfl
  verdicts := verdicts

/-- The right user, at a time when nobody can be looked up. -/
def unreachable : Hidden :=
  { mistaken with directory := { directory with byUsername := fun _ => .error outage } }

theorem answers_mistaken : mistaken.Answers := fun _ => ⟨_, rfl⟩

theorem answers_unknown : unknown.Answers := fun _ => ⟨_, rfl⟩

def attemptAlice : Try := ⟨clock, request.username, origin⟩

theorem checkUsername_alice : checkUsername attemptAlice.username = .ok request.username := rfl

theorem isRejected_of_not_enters {s : State} {x : Hidden} (hx : x.Answers)
    (hout : ¬Enters settings s attemptAlice x request.username) :
    (trial settings s attemptAlice x).IsRejected := by
  rw [trial_of_not_enters hx checkUsername_alice hout]
  exact ⟨_, rfl⟩

theorem isRejected_mistaken (s : State) : (trial settings s attemptAlice mistaken).IsRejected := by
  apply isRejected_of_not_enters answers_mistaken
  rintro ⟨u, hu, _, _, hverdict⟩
  have huser : u = user := (Option.some.inj (Except.ok.inj hu)).symm
  have hwrong : verifier mistaken.password (.stored user.passwordHash) =
      .error .invalidCredentials := by decide
  rw [huser, show mistaken.verifier = verifier from rfl, hwrong] at hverdict
  cases hverdict

theorem isRejected_unknown (s : State) : (trial settings s attemptAlice unknown).IsRejected := by
  apply isRejected_of_not_enters answers_unknown
  rintro ⟨u, hu, _⟩
  cases hu

def twice (x : Hidden) : List (Try × Hidden) := [(attemptAlice, x), (attemptAlice, x)]

theorem isRejected_twice {x : Hidden}
    (h : ∀ s, (trial settings s attemptAlice x).IsRejected) :
    ∀ trace ∈ trials settings start.state (twice x), trace.IsRejected := by
  simp only [twice, trials, List.mem_cons, List.not_mem_nil, or_false]
  rintro trace (rfl | rfl)
  · exact h _
  · exact h _

theorem mistaken_like_unknown :
    trials settings start.state (twice mistaken) = trials settings start.state (twice unknown) := by
  have hanswers : ∀ attempt ∈ twice mistaken ++ twice unknown, attempt.2.Answers := by
    simp only [twice, List.cons_append, List.nil_append, List.mem_cons, List.not_mem_nil, or_false]
    rintro attempt (rfl | rfl | rfl | rfl)
    · exact answers_mistaken
    · exact answers_mistaken
    · exact answers_unknown
    · exact answers_unknown
  exact (rejected_attempts_alike settings).1 start.state (twice mistaken) (twice unknown) rfl
    hanswers (isRejected_twice isRejected_mistaken) (isRejected_twice isRejected_unknown)

theorem trial_unreachable :
    (trial settings start.state attemptAlice unreachable).answer = .error (.error outage) ∧
      (trial settings start.state attemptAlice unreachable).comparisons = 0 := by
  have hsound : (attemptAlice.around unreachable).fails = fun _ _ => false := rfl
  obtain ⟨block, hblock, _⟩ :=
    exists_blockReading settings start.state attemptAlice unreachable request.username
  have hstops : StopsWith start.state settings (attemptAlice.around unreachable)
      ⟨attemptAlice.username, unreachable.password⟩ attemptAlice.origin outage :=
    stopsWith_of_lookup (sanitize_of_checkUsername checkUsername_alice)
      (lockReading_of_sound settings hsound start.state.store request.username) hblock rfl
  have hlogin := (hstops unreachable.verifier).1
  unfold trial
  exact ⟨congrArg Login.answer hlogin, congrArg (fun login => login.compared.toList.length) hlogin⟩

/-- An attempt without a username is rejected before any password is compared, and one that cannot
look its user up shows the error of the look-up. -/
theorem rejections_told_apart :
    ((trial settings start.state ⟨clock, "", origin⟩ mistaken).IsRejected ∧
      (trial settings start.state ⟨clock, "", origin⟩ unknown).IsRejected ∧
      (trial settings start.state ⟨clock, "", origin⟩ mistaken).comparisons = 0 ∧
      (trial settings start.state ⟨clock, "", origin⟩ unknown).comparisons = 0) ∧
    (trial settings start.state attemptAlice mistaken).IsRejected ∧
      (trial settings start.state attemptAlice unreachable).IsRejected ∧
      (trial settings start.state attemptAlice mistaken).answer ≠
        (trial settings start.state attemptAlice unreachable).answer ∧
      (trial settings start.state attemptAlice unreachable).comparisons = 0 := by
  have husername : checkUsername "" = .error (.missingField "Username is required") := rfl
  have htrial (x : Hidden) : trial settings start.state ⟨clock, "", origin⟩ x =
      rejection settings start.state ⟨clock, "", origin⟩ := trial_of_malformed husername
  obtain ⟨houtage, hcomparisons⟩ := trial_unreachable
  refine ⟨?_, isRejected_mistaken _, ⟨outage, houtage⟩, ?_, hcomparisons⟩
  · rw [htrial mistaken, htrial unknown]
    exact ⟨⟨_, rfl⟩, ⟨_, rfl⟩, rfl, rfl⟩
  · rw [houtage, trial_of_isRejected answers_mistaken (isRejected_mistaken _)]
    exact fun h => by cases h

end Sample

end Gatehouse.Service
