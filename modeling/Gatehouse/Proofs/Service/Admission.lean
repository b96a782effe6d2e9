import Gatehouse.Proofs.Credentials
import Gatehouse.Proofs.Database.Change
import Gatehouse.Proofs.Service.Visit

/-! Whom a service lets in that keeps its users in a database and compares passwords with their
hashes: whoever is found under the name with a hash that the password matches. It calls a request
malformed only if the request is, since neither the counters nor the database say such a thing. -/
namespace Gatehouse

/-! ## Errors of the counters and of the database -/

namespace Counter.Action

variable {α β : Type}

/-- The store being out of reach is all that can go wrong. -/
def OnlyUnavailable (a : Action α) : Prop :=
  ∀ context store e, (a.run context store).1 = .error e → e = unavailable

theorem onlyUnavailable_pure (value : α) : OnlyUnavailable (pure value) :=
  fun _ _ _ h => nomatch h

theorem onlyUnavailable_call {operation : Operation} {key : String}
    {f : Store → Uptime → α × Store} : OnlyUnavailable (call operation key f) := by
  intro context store e h
  rw [run_call] at h
  split at h
  · exact (Except.error.inj h).symm
  · contradiction

theorem OnlyUnavailable.bind {a : Action α} {f : α → Action β} (ha : OnlyUnavailable a)
    (hf : ∀ value, OnlyUnavailable (f value)) : OnlyUnavailable (a >>= f) := by
  intro context store e h
  rw [run_bind] at h
  rcases hrun : a.run context store with ⟨e' | value, middle⟩ <;> rw [hrun] at h
  · cases h
    exact ha context store e (congrArg Prod.fst hrun)
  · exact hf value context middle e h

end Counter.Action

namespace Guard

open Counter.Action (OnlyUnavailable onlyUnavailable_pure onlyUnavailable_call)

theorem onlyUnavailable_isUserLocked (c : Config) (username : String) :
    OnlyUnavailable (isUserLocked c username) := by
  unfold isUserLocked
  split
  · exact onlyUnavailable_call
  · exact onlyUnavailable_pure _

theorem onlyUnavailable_originBlock (c : Config) (origin : String) :
    OnlyUnavailable (originBlock c origin) := by
  unfold originBlock
  split
  · refine .bind onlyUnavailable_call fun isBlocked => ?_
    split
    · exact .bind onlyUnavailable_call fun _ => onlyUnavailable_pure _
    · exact onlyUnavailable_pure _
  · exact onlyUnavailable_pure _

end Guard

namespace Database

theorem isStorage_of_byUsername {db : Database} {username : String} {e : Error}
    (h : db.directory.byUsername username = .error e) : e.isStorage = true := by
  change (Change.run (Change.mapError _ _) db).1 = _ at h
  unfold Change.run at h
  split at h
  · contradiction
  · rename_i e' hrun
    cases h
    obtain ⟨fault, -, rfl⟩ := Change.exists_of_run_mapError hrun
    rfl

end Database

namespace Service

variable {settings : Settings} {around : Surroundings} {s : State} {request : LoginRequest}
  {origin : String} {db : Database}

/-! ## Who is let in -/

/-- Logins under a name and with a password give a user, unless a token would expire beyond the
supported years: whatever blanks are around the name, and in every state of a service with that
directory in which the name is not locked and the origin is not blocked. -/
def Admits (directory : Directory) (username password : String) (user : User) : Prop :=
  ∀ (s : State) (settings : Settings) (around : Surroundings) (request : LoginRequest)
    (origin : String) (block : Guard.OriginBlock),
    around.directory = directory → around.verifier = Password.verify →
    Text.trim request.username = Text.trim username → request.password = password →
    let lock := lockReading settings around s.store (Text.trim username)
    lock.1 = .ok false →
    (blockReading settings around lock.2 origin).1 = .ok block → block.blocked = false →
    (s.login settings around request origin).1.answer.map LoginResponse.user =
      if inCalendar settings around.clock then .ok user else .error .beyondCalendar

theorem State.user_login_of_readings {r : LoginRequest} {block : Guard.OriginBlock} {user : User}
    (hr : request.sanitize = .ok r)
    (hlock : (lockReading settings around s.store r.username).1 = .ok false)
    (hblock : (blockReading settings around
      (lockReading settings around s.store r.username).2 origin).1 = .ok block)
    (hfree : block.blocked = false)
    (hfound : around.directory.byUsername r.username = .ok (some user))
    (hmatch : around.verifier r.password (.stored user.passwordHash) = .ok ()) :
    (s.login settings around request origin).1.answer.map LoginResponse.user =
      if inCalendar settings around.clock then .ok user else .error .beyondCalendar := by
  have hlogin : s.login settings around request origin = _ :=
    State.login_of_readings hr hlock hblock hfound around.verifier
  rw [hlogin, judge_of_letsIn ⟨rfl, rfl, hfree, hmatch⟩, State.user_conclude]
  rfl

theorem username_of_sanitize {username password : String} {r : LoginRequest}
    (h : LoginRequest.sanitize ⟨username, password⟩ = .ok r) : r.username = Text.trim username := by
  obtain ⟨-, rfl⟩ := (LoginRequest.sorts_sanitize ⟨username, password⟩).eq_ok_iff r |>.mp h
  rfl

theorem admits_of_byUsername {directory : Directory} {username password : String} {r : LoginRequest}
    {user : User} (hchecked : LoginRequest.sanitize ⟨username, password⟩ = .ok r)
    (hfound : directory.byUsername r.username = .ok (some user))
    (hmatch : Password.verify r.password (.stored user.passwordHash) = .ok ()) :
    Admits directory username password user := by
  rintro s settings around request origin block rfl hverifier hsame rfl lock hlock hblock hfree
  have hname : r.username = Text.trim username := username_of_sanitize hchecked
  rw [← LoginRequest.sanitize_congr hsame] at hchecked
  rw [← hverifier] at hmatch
  subst lock
  rw [← hname] at hlock hblock
  exact State.user_login_of_readings hchecked hlock hblock hfree hfound hmatch

/-! ## Who is told to be malformed -/

theorem error_of_verify {password : String} {candidate : Candidate} {e : Error}
    (h : Password.verify password candidate = .error e) : e = .invalidCredentials := by
  unfold Password.verify at h
  split at h
  · split at h
    · contradiction
    · exact (Except.error.inj h).symm
  · exact (Except.error.inj h).symm

theorem verdict_judge_ne {user : Option User} {locked blocked : Bool} (e : ValidationError) :
    (judge Password.verify request origin user locked blocked).verdict ≠
      .error (.validation e) := by
  intro h
  by_cases hin : ∃ u, LetsIn Password.verify request.password user locked blocked u
  · obtain ⟨u, hu⟩ := hin
    rw [judge_of_letsIn hu] at h
    contradiction
  · rw [judge_of_not_letsIn fun u hu => hin ⟨u, hu⟩] at h
    cases hverdict : Password.verify request.password (candidate user locked) with
    | error e =>
      rw [hverdict, error_of_verify hverdict] at h
      simp [refusal, Error.invalidCredentials] at h
    | ok =>
      rw [hverdict] at h
      simp [refusal, Error.invalidCredentials] at h

theorem verdict_attemptAfter_ne (hdirectory : around.directory = db.directory)
    (hverifier : around.verifier = Password.verify) (store : Counter.Store) (e : ValidationError) :
    let lock := lockReading settings around store request.username
    (attemptAfter around request origin lock.1
      (blockReading settings around lock.2 origin).1).verdict ≠ .error (.validation e) := by
  intro lock h
  rcases hlock : lock.1 with e' | locked
  · rw [hlock] at h
    cases Guard.onlyUnavailable_isUserLocked _ _ _ _ _ hlock
    simp [attemptAfter, Attempt.stopped, Counter.unavailable] at h
  rcases hblock : (blockReading settings around lock.2 origin).1 with e' | block
  · rw [hlock, hblock] at h
    cases Guard.onlyUnavailable_originBlock _ _ _ _ _ hblock
    simp [attemptAfter, Attempt.stopped, Counter.unavailable] at h
  rw [hlock, hblock, attemptAfter, hdirectory, hverifier] at h
  cases hfound : db.directory.byUsername request.username with
  | error e' =>
    have hstorage := Database.isStorage_of_byUsername hfound
    rw [hfound] at h
    cases h
    contradiction
  | ok user =>
    rw [hfound] at h
    exact verdict_judge_ne e h

theorem State.verdict_of_conclude {a : Attempt} {e : Error}
    (h : (s.conclude settings around a).1.answer = .error (.error e)) : a.verdict = .error e := by
  have houtcome : outcome settings around (.ok a) = .error (.error e) := by
    rw [← State.user_conclude s a, h]
    rfl
  obtain ⟨verdict, compared, job⟩ := a
  unfold outcome at houtcome
  cases verdict with
  | error e' =>
    cases houtcome
    rfl
  | ok user =>
    dsimp only at houtcome
    split at houtcome <;> cases houtcome

/-- A login is refused as malformed only if the request is. -/
theorem sanitize_of_login {e : ValidationError} (hdirectory : around.directory = db.directory)
    (hverifier : around.verifier = Password.verify)
    (h : (s.login settings around request origin).1.answer = .error (.error (.validation e))) :
    request.sanitize = .error e := by
  cases hr : request.sanitize with
  | error e' =>
    rw [State.login_of_sanitize_error hr] at h
    cases h
    rfl
  | ok r =>
    rw [State.login_of_sanitize_ok hr] at h
    exact absurd (State.verdict_of_conclude h) (verdict_attemptAfter_ne hdirectory hverifier _ e)

end Service

end Gatehouse
