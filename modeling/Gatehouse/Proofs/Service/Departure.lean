import Gatehouse.Proofs.Service.Acceptance
import Gatehouse.Proofs.Service.Authorization

/-! The service over a directory that changes under it. Tokens outlive the user they were issued to,
but the id in them does not come back: once a user has been deleted, the refresh tokens that are
left buy nothing, whoever is added later. -/
namespace Gatehouse.Service

open Database (Call Deed History newcomers standing)
open Token (Claims)

variable {settings : Settings}

/-! ## Tokens of nobody -/

namespace Moment

variable {m : Moment}

theorem taken_eq_error {kind : Token.Kind} {token : String} {e : Error}
    (h : m.taken settings kind token = .error e) : e = .tokenInvalid := by
  cases hcarried : carried settings kind token with
  | none =>
    rw [taken, verified_eq, hcarried] at h
    cases h
    rfl
  | some c =>
    rw [taken_of_carried hcarried] at h
    split at h
    · contradiction
    · cases h
      rfl

/-- A refresh token of a user whom the directory does not know buys nothing. -/
theorem exchange_of_unknown {id : UserId} (hunknown : m.around.directory.byId id = .ok none)
    {token : String}
    (hcarried : ∀ c, carried settings .refresh token = some c → c.userId = .ok id) :
    m.exchange settings token = .error (.error .tokenInvalid) := by
  rw [exchange_eq]
  cases htaken : m.taken settings .refresh token with
  | error e => rw [taken_eq_error htaken]
  | ok c =>
    have hid := hcarried c (carried_of_taken htaken)
    unfold renewal holder
    simp only [hid, hunknown]

end Moment

/-- The claims that are read from an issued token name the user to whom it was issued. -/
theorem userId_of_issue {kind : Token.Kind} {id : UserId} {jti : String} {t : Timestamp}
    {issued : Token.Issued} (h : Token.issue settings.tokens kind id jti t = some issued)
    {c : Claims} (hcarried : carried settings kind issued.text = some c) : c.userId = .ok id := by
  unfold carried at hcarried
  rw [Token.checkToken_issue h] at hcarried
  split at hcarried
  · contradiction
  · rename_i text htext
    split at htext
    · cases htext
      rw [Option.filter_eq_some_iff, Token.open?_issue h] at hcarried
      cases hcarried.1
      rw [Claims.userId, Token.claimsFor, UserId.parse_text, Except.mapError]
    · contradiction

/-! ## The service and its directory -/

/-- The moment with another directory to look users up in. -/
def Moment.seeing (m : Moment) (directory : Directory) : Moment :=
  { m with around := { m.around with directory } }

structure Site where
  history : History
  moment : Moment

inductive Happening where
  /-- The directory is changed, or an attempt at it fails. -/
  | call (c : Call)
  | event (e : Event)

namespace Site

def start (second : Int) (m : Moment) : Site :=
  let history := History.start second
  ⟨history, m.seeing history.database.directory⟩

/-- The site after a happening; whatever it is, the service sees the directory as it then is. -/
def next (settings : Settings) (s : Site) : Happening → Site
  | .call c =>
    let history := s.history.next c
    ⟨history, s.moment.seeing history.database.directory⟩
  | .event e => ⟨s.history, (s.moment.step settings e).seeing s.history.database.directory⟩

def after (settings : Settings) (s : Site) (happenings : List Happening) : Site :=
  happenings.foldl (next settings) s

variable {s : Site}

theorem directory_after (settings : Settings) (happenings : List Happening)
    (h : s.moment.around.directory = s.history.database.directory) :
    (s.after settings happenings).moment.around.directory =
      (s.after settings happenings).history.database.directory := by
  induction happenings generalizing s with
  | nil => exact h
  | cons happening happenings ih =>
    refine ih ?_
    cases happening <;> rfl

/-- The directory of a site has gone through the calls that were made on it. -/
theorem exists_calls (settings : Settings) (s : Site) (happenings : List Happening) :
    ∃ calls, (s.after settings happenings).history = s.history.after calls := by
  induction happenings generalizing s with
  | nil => exact ⟨[], rfl⟩
  | cons happening happenings ih =>
    obtain ⟨calls, hcalls⟩ := ih (s.next settings happening)
    cases happening with
    | call c => exact ⟨c :: calls, hcalls⟩
    | event e => exact ⟨calls, hcalls⟩

/-- No two users are alike in id or username, and a user is found under both as the last change of
the user left things. Ids are given out in ascending order from one on. Therefore a user who was
deleted is gone for good: none of the user's refresh tokens is exchanged any more, and the user may
do nothing, whatever has happened since. -/
theorem identity (settings : Settings) (second : Int) (m : Moment) (happenings : List Happening) :
    let s := (start second m).after settings happenings
    let deeds := s.history.deeds
    let rows := s.history.database.rows.users.rows
    let directory := s.moment.around.directory
    (∀ (n k : Nat) (user other : User), rows[n]? = some user → rows[k]? = some other →
        user.id = other.id ∨ user.username = other.username → n = k) ∧
      (∀ id, directory.byId id = .ok (standing deeds id)) ∧
      (∀ username, ∃ found, directory.byUsername username = .ok found ∧
        ∀ user, found = some user ↔
          standing deeds user.id = some user ∧ user.username = username) ∧
      ((newcomers deeds).Pairwise fun earlier later => earlier.value < later.value) ∧
      (∀ id ∈ newcomers deeds, 0 < id.value) ∧
      ∀ user, [Deed.created user, .deleted user.id].Sublist deeds →
        (∀ jti t issued, Token.issue settings.tokens .refresh user.id jti t = some issued →
          s.moment.exchange settings issued.text = .error (.error .tokenInvalid)) ∧
        ∀ code, authorize directory user.id code = .error (.auth .userNotFound) := by
  intro s deeds rows directory
  obtain ⟨calls, hcalls⟩ := exists_calls settings (start second m) happenings
  have hrecorded : Database.Recorded s.history.deeds s.history.database.rows := by
    rw [hcalls]
    exact Database.recorded_after second calls
  have hlaid : s.history.database.IsLaid := by
    rw [hcalls]
    exact History.isLaid_after (History.isLaid_start second) calls
  have hdirectory : directory = s.history.database.directory :=
    directory_after settings happenings rfl
  have henrolled := hrecorded.enrolled
  have hbyId (id : UserId) : directory.byId id = .ok (standing deeds id) :=
    hdirectory ▸ Database.byId_eq hlaid henrolled id
  refine ⟨fun n k user other hn hk hsame => ?_, hbyId, fun username => ?_, henrolled.ascending,
    fun id hid => ?_, fun user hgone => ?_⟩
  · obtain hid | hname := hsame
    · rw [← henrolled.numbered n user hn, hid, henrolled.numbered k other hk]
    · exact henrolled.distinct n k user other hn hk hname
  · rw [hdirectory]
    exact Database.byUsername_eq hlaid henrolled username
  · rw [UInt64.lt_iff_toNat_lt]
    exact (henrolled.given id hid).1
  · have hnobody := Database.standing_of_deleted henrolled.ascending hgone
    constructor
    · intro jti t issued hissued
      exact Moment.exchange_of_unknown ((hbyId user.id).trans (congrArg _ hnobody)) fun c hc =>
        userId_of_issue hissued hc
    · intro code
      have hgiven := henrolled.given user.id
        (Database.mem_newcomers.mpr ⟨user, hgone.subset List.mem_cons_self, rfl⟩)
      have hvalid : user.id.value ≠ 0 := by
        intro hzero
        rw [hzero] at hgiven
        exact absurd hgiven.1 (by decide)
      rw [hdirectory, authorize_of_recorded hlaid hrecorded, authority, if_neg hvalid, hnobody]

/-- A username that is free again goes to a user with a new id. -/
example :
    let s := (start 0 Sample.start).after Sample.settings
      [.call (.createUser ⟨"alice", "first", "", ""⟩ 0), .call (.deleteUser ⟨1⟩),
        .event (.shutdown), .call (.createUser ⟨"alice", "second", "", ""⟩ 0)]
    newcomers s.history.deeds = [⟨1⟩, ⟨2⟩] ∧ standing s.history.deeds ⟨1⟩ = none ∧
      (standing s.history.deeds ⟨2⟩).map User.passwordHash = some "second" := by
  rw [start, History.start, Database.Layout.migrate_empty]
  decide +kernel

end Site

end Gatehouse.Service
