import Gatehouse.Proofs.Service.Listing

/-! Revoked ids along a run. What decides whether an id is listed is the last of its revocations
that came before the revoked token's instant of expiry: the id is listed until that instant,
whatever else happens in between. -/
namespace Gatehouse.Service

open Counter (Store)
open Token (Claims)

namespace Moment

variable (settings : Settings) (m : Moment)

/-- The claims that an event revokes: those whose instant of expiry is still ahead. -/
def revokes (e : Event) : List Claims :=
  (m.handedIn settings e).filter fun c => 0 < c.remainingLifetime m.around.clock

def revocations (m : Moment) : List Event → List Claims
  | [] => []
  | e :: events => m.revokes settings e ++ revocations (m.step settings e) events

theorem revokes_logout {access c : Claims} {refresh : String} (hkind : access.kind = .access)
    (hverified : verified settings m.around .refresh refresh = .ok c)
    (hsubject : c.subject = access.subject) :
    m.revokes settings (.logout access refresh) =
      [access, c].filter fun c => 0 < c.remainingLifetime m.around.clock := by
  unfold revokes handedIn partner
  simp only [if_pos hkind, hverified, if_pos hsubject, Option.toList]

theorem revocations_advance (e : Event) (span : Span) :
    m.revocations settings [e, .advance span] = m.revokes settings e :=
  List.append_nil _

end Moment

def lastOf (jti : String) (revocations : List Claims) : Option Claims :=
  (revocations.filter fun c => c.jti = jti).getLast?

theorem lastOf_append (jti : String) (earlier later : List Claims) :
    lastOf jti (earlier ++ later) = (lastOf jti later).or (lastOf jti earlier) := by
  unfold lastOf
  rw [List.filter_append, List.getLast?_append]

theorem mem_of_lastOf {jti : String} {revoked : List Claims} {r : Claims}
    (h : lastOf jti revoked = some r) : r ∈ revoked ∧ r.jti = jti := by
  have hmem := List.mem_of_getLast? h
  rw [List.mem_filter, decide_eq_true_eq] at hmem
  exact hmem

theorem lastOf_ne_none {revoked : List Claims} {c : Claims} (h : c ∈ revoked) :
    lastOf c.jti revoked ≠ none := by
  have hmem : c ∈ revoked.filter fun r => r.jti = c.jti := by simp [h]
  intro hnone
  rw [lastOf, List.getLast?_eq_none_iff] at hnone
  rw [hnone] at hmem
  exact List.not_mem_nil hmem

namespace Moment

variable {settings : Settings} {m : Moment} {jti : String} {later : Uptime}

/-- Whether an id is listed at a later uptime, by its last revocation and what held before. -/
def listing (m : Moment) (jti : String) (later : Uptime) (before : Bool)
    (revocations : List Claims) : Bool :=
  (lastOf jti revocations).elim before fun c => c.endsAfter (m.around.clock.start + later)

theorem listing_append (before : Bool) (first second : List Claims) :
    m.listing jti later before (first ++ second) =
      m.listing jti later (m.listing jti later before first) second := by
  unfold listing
  rw [lastOf_append]
  cases lastOf jti second <;> rfl

theorem isListed_entered (hjti : jti ≠ "") (c : Claims) (store : Store) :
    isListed (entered m.around.clock store c) later jti =
      m.listing jti later (isListed store later jti)
        ([c].filter fun c => 0 < c.remainingLifetime m.around.clock) := by
  have hahead := Claims.remainingLifetime_pos_iff (c := c) m.started
  unfold isListed
  rw [live?_entered]
  by_cases hid : c.jti = jti
  · subst hid
    by_cases hlisted : c.Listable m.around.clock
    · have hlive : (entry m.around.clock c).isLive later =
          c.endsAfter (m.around.clock.start + later) := (hlisted.endsAfter_eq later).symm
      have hpos := hahead.mpr hlisted.2
      cases hends : c.endsAfter (m.around.clock.start + later) <;>
        simp [listing, lastOf, hlisted, hpos, hlive, hends, Option.filter]
    · have hover : ¬0 < c.remainingLifetime m.around.clock := fun h => hlisted ⟨hjti, hahead.mp h⟩
      simp [listing, lastOf, hlisted, hover]
  · by_cases hpos : 0 < c.remainingLifetime m.around.clock
    · simp [listing, lastOf, hpos, hid]
    · simp [listing, lastOf, hpos, hid]

theorem isListed_foldl_entered (hjti : jti ≠ "") (claims : List Claims) (store : Store) :
    isListed (claims.foldl (entered m.around.clock) store) later jti =
      m.listing jti later (isListed store later jti)
        (claims.filter fun c => 0 < c.remainingLifetime m.around.clock) := by
  induction claims generalizing store with
  | nil => rfl
  | cons c claims ih =>
    rw [List.foldl_cons, ih, isListed_entered hjti, ← listing_append, ← List.filter_append]
    rfl

/-- One event, as later readers of the list of revoked ids see it. -/
theorem isListed_step (hjti : jti ≠ "") (e : Event) (hlater : (m.step settings e).uptime ≤ later) :
    isListed (m.step settings e).state.store later jti =
      m.listing jti later (isListed m.state.store later jti) (m.revokes settings e) := by
  rw [isListed_of_live?_eq (live?_step e hlater), isListed_foldl_entered hjti]
  rfl

/-- A whole run, as later readers of the list of revoked ids see it. -/
theorem isListed_after (hjti : jti ≠ "") (events : List Event)
    (hlater : (m.after settings events).uptime ≤ later) :
    isListed (m.after settings events).state.store later jti =
      m.listing jti later (isListed m.state.store later jti) (m.revocations settings events) := by
  induction events generalizing m with
  | nil => rfl
  | cons e events ih =>
    have hstep : (m.step settings e).uptime ≤ later :=
      Nat.le_trans (uptime_le_after settings _ events) hlater
    rw [after_cons, ih hlater, isListed_step hjti e hstep, revocations, listing_append]
    unfold listing
    rw [start_step]

end Moment

end Gatehouse.Service
