import Gatehouse.Proofs.Service.Run

/-! What a presented token is worth at a moment. Its claims do not depend on the time; whether they
are accepted depends on the current second and on whether the id is listed as revoked. -/
namespace Gatehouse.Service

open Counter (Action Key Store)

variable (settings : Settings)

/-- The claims that a token of a kind carries, whatever the time is. -/
def carried (kind : Token.Kind) (token : String) : Option Token.Claims :=
  match checkToken token with
  | .error _ => none
  | .ok token => (Token.open? (settings.tokens.secret kind) token.toList).filter fun c =>
      0 ≤ c.expires.toInt ∧ c.issuer = settings.tokens.issuer ∧ c.kind = kind

variable {settings} {kind : Token.Kind} {token : String} {c : Token.Claims}

theorem kind_of_carried (h : carried settings kind token = some c) : c.kind = kind := by
  unfold carried at h
  split at h
  · cases h
  · rw [Option.filter_eq_some_iff] at h
    have hpassed := of_decide_eq_true h.2
    exact hpassed.2.2

theorem verified_eq (around : Surroundings) (kind : Token.Kind) (token : String) :
    verified settings around kind token =
      match carried settings kind token with
      | some c => if around.clock.second ≤ c.expires.toInt then .ok c else .error .tokenInvalid
      | none => .error .tokenInvalid := by
  unfold verified carried
  cases checkToken token with
  | error e => rfl
  | ok token =>
    simp only [Token.verify]
    cases Token.open? (settings.tokens.secret kind) token.toList with
    | none => rfl
    | some c =>
      by_cases hcarried : 0 ≤ c.expires.toInt ∧ c.issuer = settings.tokens.issuer ∧ c.kind = kind
      · simp [Option.filter, hcarried]
      · have hverify : ¬(0 ≤ c.expires.toInt ∧ around.clock.second ≤ c.expires.toInt ∧
            c.issuer = settings.tokens.issuer ∧ c.kind = kind) :=
          fun h => hcarried ⟨h.1, h.2.2⟩
        simp only [if_neg hverify, Option.filter, decide_eq_false hcarried,
          if_neg Bool.false_ne_true]

theorem verified_eq_ok_iff {around : Surroundings} :
    verified settings around kind token = .ok c ↔
      carried settings kind token = some c ∧ around.clock.second ≤ c.expires.toInt := by
  rw [verified_eq]
  cases carried settings kind token with
  | none => simp
  | some c' =>
    by_cases h : around.clock.second ≤ c'.expires.toInt
    · simp only [if_pos h, Except.ok.injEq, Option.some.injEq]
      constructor
      · rintro rfl
        exact ⟨rfl, h⟩
      · exact And.left
    · simp only [if_neg h, reduceCtorEq, Option.some.injEq, false_iff]
      rintro ⟨rfl, h'⟩
      exact h h'

/-- A token shows claims: without the blanks around it, it is not empty, not too long, and verified
as one of its kind. -/
structure Presents (settings : Settings) (clock : Clock) (kind : Token.Kind) (token : String)
    (c : Token.Claims) : Prop where
  pos : 1 ≤ (Text.trim token).utf8ByteSize
  le_max : (Text.trim token).utf8ByteSize ≤ maxTokenLength
  verify : Token.verify settings.tokens kind (Text.trim token) clock.second = .ok c

theorem checkToken_eq (text : String) :
    checkToken text =
      if (Text.trim text).utf8ByteSize = 0 then .error (.missingField "Token is required")
      else if maxTokenLength < (Text.trim text).utf8ByteSize then
        .error (.invalidField "Token is too long")
      else .ok (Text.trim text) := by
  unfold checkToken String.isEmpty
  simp only [beq_iff_eq]

theorem verified_eq_ok_iff_presents {around : Surroundings} :
    verified settings around kind token = .ok c ↔
      Presents settings around.clock kind token c := by
  unfold verified
  rw [checkToken_eq]
  constructor
  · intro h
    split at h
    · rename_i text htext
      split at htext
      · cases htext
      · rename_i hpos
        split at htext
        · cases htext
        · rename_i hmax
          cases htext
          exact ⟨Nat.pos_of_ne_zero hpos, Nat.le_of_not_lt hmax, h⟩
    · cases h
  · rintro ⟨hpos, hmax, hverify⟩
    rw [if_neg (Nat.ne_of_gt hpos), if_neg (Nat.not_lt.mpr hmax)]
    exact hverify

/-! ## Ids that are listed as revoked -/

/-- Whether a reader of the counters finds an id listed at an uptime. -/
def isListed (store : Store) (uptime : Uptime) (jti : String) : Bool :=
  (store.live? uptime (Key.revoked jti).text).isSome

theorem isListed_of_live?_eq {a b : Store} {uptime : Uptime} {jti : String}
    (h : a.live? uptime (Key.revoked jti).text = b.live? uptime (Key.revoked jti).text) :
    isListed a uptime jti = isListed b uptime jti :=
  congrArg Option.isSome h

namespace Moment

variable (m : Moment)

/-- Whether a token with the id is turned down at this moment; one without an id never is. -/
def isRevoked (jti : String) : Bool := !jti.isEmpty && isListed m.state.store m.uptime jti

theorem answer_isRevoked (jti : String) :
    ((Revocation.isRevoked jti).run m.around.context m.state.store).1 = .ok (m.isRevoked jti) := by
  unfold Revocation.isRevoked isRevoked
  split
  · rename_i h
    simp [h]
  · rename_i h
    rw [Action.contains, Action.run_call, context_sound]
    simp [h, Counter.Context.sound, Store.contains, isListed]

/-- The claims of a presented token, if it is taken at this moment. -/
def taken (settings : Settings) (m : Moment) (kind : Token.Kind) (token : String) :
    Except Error Token.Claims :=
  match verified settings m.around kind token with
  | .ok c => if m.isRevoked c.jti then .error .tokenInvalid else .ok c
  | .error e => .error e

theorem answer_accepted (kind : Token.Kind) (token : String) :
    ((accepted settings m.around kind token).run m.around.context m.state.store).1 =
      m.taken settings kind token := by
  have hanswer := m.answer_isRevoked
  unfold accepted taken
  rw [Action.run_bind, Action.run_lift]
  cases verified settings m.around kind token with
  | error e => rfl
  | ok c =>
    specialize hanswer c.jti
    simp only [Action.run_bind]
    rcases h : (Revocation.isRevoked c.jti).run m.around.context m.state.store with ⟨answer, store⟩
    rw [h] at hanswer
    cases hanswer
    cases m.isRevoked c.jti <;> rfl

variable {m}

theorem taken_of_carried (h : carried settings kind token = some c) :
    m.taken settings kind token =
      if m.around.clock.second ≤ c.expires.toInt ∧ m.isRevoked c.jti = false then .ok c
      else .error .tokenInvalid := by
  unfold taken
  rw [verified_eq, h]
  by_cases hvalid : m.around.clock.second ≤ c.expires.toInt
  · cases hrevoked : m.isRevoked c.jti <;> simp [hvalid, hrevoked]
  · simp [hvalid]

theorem taken_of_verified (h : verified settings m.around kind token = .ok c)
    (hrevoked : m.isRevoked c.jti = false) : m.taken settings kind token = .ok c := by
  unfold taken
  simp only [h, hrevoked, Bool.false_eq_true, if_false]

theorem carried_of_taken (h : m.taken settings kind token = .ok c) :
    carried settings kind token = some c := by
  unfold taken at h
  split at h
  · rename_i c' hverified
    split at h
    · cases h
    · cases h
      exact (verified_eq_ok_iff.mp hverified).1
  · cases h

theorem isRevoked_of_taken (h : m.taken settings kind token = .ok c) :
    m.isRevoked c.jti = false := by
  unfold taken at h
  split at h
  · split at h
    · cases h
    · rename_i hrevoked
      cases h
      exact eq_false_of_ne_true hrevoked
  · cases h

end Moment

end Gatehouse.Service
