import Gatehouse.Proofs.Service.Finality
import Gatehouse.Proofs.Service.Login
import Mathlib.Data.List.Induction

/-! How often a refresh token is exchanged under rotation: at most once before the second in which
it expires. During that second its use is no longer recorded, and it is exchanged as often as it is
presented. -/
namespace Gatehouse.Service

open Token (Claims)

section

variable {settings : Settings}

namespace Moment

def handsOut (settings : Settings) (m : Moment) : Event → Option Token.Pair
  | .login request origin =>
    (m.state.login settings m.around request origin).1.answer.toOption.map fun r => r.tokens
  | .refresh token => (m.exchange settings token).toOption
  | _ => none

/-- All pairs that a run hands out. -/
def handedOut (settings : Settings) (m : Moment) : List Event → List Token.Pair
  | [] => []
  | e :: events =>
    (m.handsOut settings e).toList ++ handedOut settings (m.step settings e) events

/-- The second in which an event exchanges a token, if it does. -/
def exchangedIn (settings : Settings) (m : Moment) (token : String) : Event → Option Int
  | .refresh presented =>
    if presented = token ∧ (m.exchange settings presented).isOk then some m.around.clock.second
    else none
  | _ => none

/-- The seconds in which a run exchanges a token, in order. -/
def exchanges (settings : Settings) (token : String) (m : Moment) : List Event → List Int
  | [] => []
  | e :: events =>
    (m.exchangedIn settings token e).toList ++ exchanges settings token (m.step settings e) events

variable {m start : Moment} {token : String} {p : Token.Pair} {c : Claims}

theorem exchanges_append (before later : List Event) :
    start.exchanges settings token (before ++ later) =
      start.exchanges settings token before ++
        (start.after settings before).exchanges settings token later := by
  induction before generalizing start with
  | nil => rfl
  | cons e before ih => simp only [List.cons_append, exchanges, ih, after_cons, List.append_assoc]

theorem ids_step (e : Event) : (m.step settings e).around.ids = m.around.ids := by
  cases e <;> rfl

/-- What an exchange that succeeds takes: a token that is taken, for a user who is still there. -/
theorem taken_of_exchange (h : m.exchange settings token = .ok p) :
    ∃ c id, m.taken settings .refresh token = .ok c ∧ m.holder c = .ok id ∧
      (m.state.issuePair settings m.around id).1 = .ok p := by
  rw [exchange_eq] at h
  cases htaken : m.taken settings .refresh token with
  | error e =>
    rw [htaken] at h
    contradiction
  | ok c =>
    rw [htaken] at h
    unfold renewal at h
    cases hholder : m.holder c with
    | error e =>
      simp only [hholder] at h
      contradiction
    | ok id =>
      simp only [hholder] at h
      exact ⟨c, id, rfl, hholder, h⟩

theorem eq_ok_of_toOption {ε α : Type} {x : Except ε α} {value : α}
    (h : x.toOption = some value) : x = .ok value := by
  cases x with
  | error e => contradiction
  | ok value' =>
    cases h
    rfl

theorem issuePair_of_handsOut {e : Event} (h : m.handsOut settings e = some p) :
    ∃ (s : State) (user : UserId), (s.issuePair settings m.around user).1 = .ok p := by
  cases e with
  | login request origin =>
    simp only [handsOut, Option.map_eq_some_iff] at h
    obtain ⟨response, hresponse, rfl⟩ := h
    obtain ⟨s, _, hs⟩ := State.issuePair_of_login (eq_ok_of_toOption hresponse)
    exact ⟨s, _, hs⟩
  | refresh token =>
    simp only [handsOut] at h
    obtain ⟨c, id, _, _, hpair⟩ := taken_of_exchange (eq_ok_of_toOption h)
    exact ⟨m.state, id, hpair⟩
  | _ => simp only [handsOut, reduceCtorEq] at h

theorem refresh_of_handedOut {events : List Event} (h : p ∈ start.handedOut settings events) :
    ∃ (user : UserId) (n : Nat) (now : Timestamp),
      now.shift? settings.tokens.refreshLifetime = some p.refreshExpiresAt ∧
      p.refresh = String.ofList (Token.signed (settings.tokens.secret .refresh)
        (Token.claimsFor settings.tokens .refresh user (start.around.ids n) now
          p.refreshExpiresAt)) := by
  induction events generalizing start with
  | nil => contradiction
  | cons e events ih =>
    rw [handedOut, List.mem_append, Option.mem_toList] at h
    rcases h with h | h
    · obtain ⟨s, user, hs⟩ := issuePair_of_handsOut h
      obtain ⟨access, refresh, _, hrefresh, rfl⟩ := State.issuePair_eq_ok hs
      obtain ⟨hshift, htext⟩ := Token.issue_eq_some hrefresh
      exact ⟨user, s.drawn + 1, start.around.clock.wall, hshift, htext⟩
    · obtain ⟨user, n, now, hshift, htext⟩ := ih h
      rw [ids_step] at htext
      exact ⟨user, n, now, hshift, htext⟩

/-! ## Exchanging one token -/

theorem exchangedIn_eq_some {e : Event} {second : Int}
    (h : m.exchangedIn settings token e = some second) :
    e = .refresh token ∧ second = m.around.clock.second ∧
      ∃ p, m.exchange settings token = .ok p := by
  cases e with
  | refresh presented =>
    simp only [exchangedIn, Option.ite_none_right_eq_some] at h
    obtain ⟨⟨rfl, hok⟩, hsecond⟩ := h
    refine ⟨rfl, (Option.some.inj hsecond).symm, ?_⟩
    cases hexchange : m.exchange settings presented with
    | error e =>
      rw [hexchange] at hok
      contradiction
    | ok p => exact ⟨p, rfl⟩
  | _ => simp only [exchangedIn, reduceCtorEq] at h

theorem exchangedIn_of_isOk (h : (m.exchange settings token).isOk = true) :
    m.exchangedIn settings token (.refresh token) = some m.around.clock.second := by
  simp only [exchangedIn, h, and_self, if_true]

/-- Under rotation a token that is exchanged is handed to the list of revoked ids. -/
theorem handedIn_of_exchange (hrotate : settings.rotate = true)
    (hc : carried settings .refresh token = some c) (h : m.exchange settings token = .ok p) :
    c ∈ m.handedIn settings (.refresh token) := by
  obtain ⟨c', id, htaken, hholder, _⟩ := taken_of_exchange h
  have heq : c' = c := Option.some.inj ((carried_of_taken htaken).symm.trans hc)
  rw [heq] at htaken hholder
  simp [handedIn, usedUp, htaken, hrotate, hholder, Except.isOk, Except.toBool]

theorem endsAfter_of_second_lt (hrange : Timestamp.inRange c.expires.toInt = true)
    (h : m.around.clock.second < c.expires.toInt) :
    c.endsAfter m.around.clock.wallNanos = true := by
  have hlingers := lingers_iff (m := m) hrange
  unfold lingers at hlingers
  unfold Claims.endsAfter
  rw [decide_eq_true_iff]
  omega

theorem expireAlike_before {before : List Event} (later : List Event)
    (h : ExpireAlike (start.revocations settings (before ++ later)) c) :
    ExpireAlike (start.revocations settings before) c := by
  intro r hr
  apply h r
  rw [revocations_append]
  exact List.mem_append_left _ hr

/-- Once it was handed to the list of revoked ids, a token is not exchanged before the second in
which it expires. -/
theorem not_exchanged_of_handedIn (hfresh : start.state = .new settings)
    (hc : carried settings .refresh token = some c) (hjti : c.jti ≠ "")
    (hrange : Timestamp.inRange c.expires.toInt = true) {before later : List Event} {e : Event}
    (hhanded : c ∈ (start.after settings before).handedIn settings e)
    (halike : ExpireAlike (start.revocations settings (before ++ e :: later)) c)
    (hsecond : (start.after settings (before ++ e :: later)).around.clock.second <
      c.expires.toInt) :
    (start.after settings (before ++ e :: later)).exchange settings token ≠ .ok p := by
  intro hp
  obtain ⟨c', id, htaken, _, _⟩ := taken_of_exchange hp
  have heq : c' = c := Option.some.inj ((carried_of_taken htaken).symm.trans hc)
  have hrevoked := isRevoked_of_taken htaken
  rw [heq, isRevoked_of_handedIn hfresh hhanded hjti halike,
    endsAfter_of_second_lt hrange hsecond] at hrevoked
  exact Bool.noConfusion hrevoked

/-- Under rotation a token is exchanged at most once before the second in which it expires, and an
exchange before that second hands it to the list of revoked ids. -/
theorem exchanges_before_expiry (hfresh : start.state = .new settings)
    (hrotate : settings.rotate = true) (hc : carried settings .refresh token = some c)
    (hjti : c.jti ≠ "") (hrange : Timestamp.inRange c.expires.toInt = true) (events : List Event)
    (halike : ExpireAlike (start.revocations settings events) c) :
    let early := (start.exchanges settings token events).filter (· < c.expires.toInt)
    early.length ≤ 1 ∧
      (early ≠ [] → ∃ before later, events = before ++ .refresh token :: later ∧
        c ∈ (start.after settings before).handedIn settings (.refresh token)) := by
  induction events using List.reverseRecOn with
  | nil => exact ⟨Nat.zero_le 1, fun h => absurd rfl h⟩
  | append_singleton events e ih =>
    have halike' := expireAlike_before _ halike
    obtain ⟨hcount, hhanded⟩ := ih halike'
    intro early
    have hearly : early = (start.exchanges settings token events).filter (· < c.expires.toInt) ++
        ((start.after settings events).exchangedIn settings token e).toList.filter
          (· < c.expires.toInt) := by
      change ((start.exchanges settings token (events ++ [e])).filter _) = _
      rw [exchanges_append, List.filter_append, exchanges, exchanges, List.append_nil]
    have hstill : (start.exchanges settings token events).filter (· < c.expires.toInt) ≠ [] →
        ∃ before later, events ++ [e] = before ++ .refresh token :: later ∧
          c ∈ (start.after settings before).handedIn settings (.refresh token) := by
      intro hne
      obtain ⟨before, later, rfl, hmem⟩ := hhanded hne
      exact ⟨before, later ++ [e], by simp, hmem⟩
    rw [hearly]
    cases hlast : (start.after settings events).exchangedIn settings token e with
    | none =>
      simp only [Option.toList_none, List.filter_nil, List.append_nil]
      exact ⟨hcount, hstill⟩
    | some second =>
      obtain ⟨rfl, rfl, p, hp⟩ := exchangedIn_eq_some hlast
      by_cases hsecond : (start.after settings events).around.clock.second < c.expires.toInt
      · -- An earlier exchange would still have the token listed as revoked.
        have hfirst :
            (start.exchanges settings token events).filter (· < c.expires.toInt) = [] := by
          by_contra hne
          obtain ⟨before, later, rfl, hbefore⟩ := hhanded hne
          exact not_exchanged_of_handedIn hfresh hc hjti hrange hbefore halike' hsecond hp
        rw [hfirst]
        exact ⟨by simp [hsecond], fun _ => ⟨events, [], rfl, handedIn_of_exchange hrotate hc hp⟩⟩
      · simp only [Option.toList_some, List.filter_cons, hsecond, decide_false,
          Bool.false_eq_true, if_false, List.filter_nil, List.append_nil]
        exact ⟨hcount, hstill⟩

theorem carried_of_revokes {r : Claims} (h : r ∈ m.revokes settings (.refresh token)) :
    carried settings .refresh token = some r := by
  have hmem : r ∈ (m.usedUp settings token).toList := (List.mem_filter.mp h).1
  rw [Option.mem_toList] at hmem
  unfold usedUp at hmem
  split at hmem
  · cases hmem
  · rename_i c htaken
    split at hmem
    · cases hmem
      exact carried_of_taken htaken
    · cases hmem

theorem escapes_of_lingers {revoked : List Claims} (halike : ExpireAlike revoked c)
    (h : m.lingers c) : m.escapes revoked c := by
  refine ⟨h.2, ?_⟩
  cases hlast : lastOf c.jti revoked with
  | none => rfl
  | some r =>
    rw [Option.any_some, halike.endsAfter_lastOf hlast]
    exact decide_eq_false (Int.not_lt.mpr h.1)

theorem exchanges_of_not_carried (hc : carried settings .refresh token = none)
    (events : List Event) : start.exchanges settings token events = [] := by
  induction events generalizing start with
  | nil => rfl
  | cons e events ih =>
    have hnone : start.exchangedIn settings token e = none := by
      cases hexchanged : start.exchangedIn settings token e with
      | none => rfl
      | some second =>
        obtain ⟨_, _, p, hp⟩ := exchangedIn_eq_some hexchanged
        obtain ⟨c, _, htaken, _⟩ := taken_of_exchange hp
        have hcarried := carried_of_taken htaken
        rw [hc] at hcarried
        exact absurd hcarried.symm (Option.some_ne_none c)
    rw [exchanges, hnone, ih]
    rfl

/-- How often a refresh token that the service handed out is exchanged under rotation. -/
theorem exchanges_of_handedOut (hfresh : start.state = .new settings)
    (hrotate : settings.rotate = true) (hids : ∀ n, start.around.ids n ≠ "")
    {events : List Event} (hp : p ∈ start.handedOut settings events) :
    (carried settings .refresh p.refresh = none →
      start.exchanges settings p.refresh events = []) ∧
    ∀ c, carried settings .refresh p.refresh = some c →
      c.expires.toInt = p.refreshExpiresAt.seconds ∧
      (∀ before, (start.after settings before).exchange settings p.refresh =
        if (start.after settings before).escapes (start.revocations settings before) c then
          (start.after settings before).renewal settings c
        else .error (.error .tokenInvalid)) ∧
      (ExpireAlike (start.revocations settings events) c →
        ((start.exchanges settings p.refresh events).filter
          (· < p.refreshExpiresAt.seconds)).length ≤ 1 ∧
        ∀ before later, events = before ++ later →
          (start.after settings before).around.clock.second = p.refreshExpiresAt.seconds →
          (start.after settings before).exchange settings p.refresh =
            (start.after settings before).renewal settings c) := by
  refine ⟨fun hc => exchanges_of_not_carried hc events, fun c hc => ?_⟩
  obtain ⟨user, n, now, hshift, htext⟩ := refresh_of_handedOut hp
  obtain ⟨hrange, hseconds⟩ := Token.toInt_ofInt_seconds hshift
  have heq : c = _ := eq_of_carried_signed (htext ▸ hc)
  have hjti : c.jti ≠ "" := heq ▸ hids n
  have hexpires : c.expires.toInt = p.refreshExpiresAt.seconds := by
    rw [heq]
    exact hseconds
  rw [← hexpires] at hrange
  refine ⟨hexpires, exchange_after hfresh hc hjti, fun halike => ⟨?_, ?_⟩⟩
  · rw [← hexpires]
    exact (exchanges_before_expiry hfresh hrotate hc hjti hrange events halike).1
  · rintro before later rfl hsecond
    have halike' := expireAlike_before _ halike
    have hlingers : (start.after settings before).lingers c := by
      rw [lingers_iff hrange, hexpires]
      exact hsecond
    rw [exchange_after hfresh hc hjti, if_pos (escapes_of_lingers halike' hlingers)]

end Moment

end

/-! ## A token that is exchanged twice -/

namespace Sample

def refreshExpiresAt : Timestamp := ⟨1700000001, 500000000⟩

def refreshClaims : Claims :=
  Token.claimsFor settings.tokens .refresh user.id (start.around.ids 1) clock.wall refreshExpiresAt

def refreshToken : String :=
  .ofList (Token.signed (settings.tokens.secret .refresh) refreshClaims)

/-- A sign-in, and some time later its refresh token is presented twice. -/
def presentTwice (span : Span) : List Event :=
  [.login request origin, .advance span, .refresh refreshToken, .refresh refreshToken]

theorem exists_handedOut : ∃ p : Token.Pair, p.refresh = refreshToken ∧
    p.refreshExpiresAt = refreshExpiresAt ∧
    ∀ span, p ∈ start.handedOut settings (presentTwice span) := by
  obtain ⟨block, hblock, hblocked⟩ := blockReading_start
  have hcompares := compares_of_readings sanitize_request lockReading_start hblock
    (show start.around.directory.byUsername request.username = .ok (some user) from rfl)
  rw [hblocked] at hcompares
  obtain ⟨p, hanswer, _⟩ := (hcompares.letIn user letsIn_start).2 (by decide)
  obtain ⟨s, hdrawn, hs⟩ := State.issuePair_of_login hanswer
  obtain ⟨access, refresh, _, hrefresh, hpair⟩ := State.issuePair_eq_ok hs
  obtain ⟨hshift, htext⟩ := Token.issue_eq_some hrefresh
  have hexpires : refresh.expiresAt = refreshExpiresAt := by
    have hlifetime : start.around.clock.wall.shift? (settings.tokens.lifetime .refresh) =
        some refreshExpiresAt := by decide
    rw [hshift] at hlifetime
    exact Option.some.inj hlifetime
  have hp : p = .ofIssued access refresh := hpair
  refine ⟨p, ?_, ?_, fun span => ?_⟩
  · rw [hp]
    change refresh.text = _
    rw [htext, hexpires, hdrawn]
    rfl
  · rw [hp]
    exact hexpires
  · unfold presentTwice
    rw [Moment.handedOut, List.mem_append]
    left
    simp only [Moment.handsOut, hanswer]
    simp [Except.toOption]

theorem carried_refreshToken : carried settings .refresh refreshToken = some refreshClaims := by
  have hlength : (Token.encodeJson refreshClaims.toJson).length + 81 ≤ maxTokenLength := by
    rw [Token.length_encodeJson]
    decide
  exact carried_signed hlength (by decide) rfl rfl

theorem expireAlike_presentTwice (span : Span) :
    Moment.ExpireAlike (start.revocations settings (presentTwice span)) refreshClaims := by
  intro r hr _
  unfold presentTwice at hr
  simp only [Moment.revocations, List.mem_append, List.not_mem_nil, or_false] at hr
  have hnone (m : Moment) : r ∉ m.revokes settings (.login request origin) := List.not_mem_nil
  have hnone' (m : Moment) : r ∉ m.revokes settings (.advance span) := List.not_mem_nil
  rcases hr with hr | hr | hr | hr
  · exact absurd hr (hnone _)
  · exact absurd hr (hnone' _)
  · have hcarried := Moment.carried_of_revokes hr
    rw [carried_refreshToken] at hcarried
    cases hcarried
    rfl
  · have hcarried := Moment.carried_of_revokes hr
    rw [carried_refreshToken] at hcarried
    cases hcarried
    rfl

theorem refreshClaims_jti : refreshClaims.jti ≠ "" := by decide

/-- In the second in which it expires the token brings a pair, whatever it brought before. -/
theorem isOk_exchange_half (before : List Event)
    (haround : (start.after settings before).around =
      { start.around with clock := clock.advance half })
    (halike : Moment.ExpireAlike (start.revocations settings before) refreshClaims) :
    ((start.after settings before).exchange settings refreshToken).isOk = true := by
  have hfresh : start.state = .new settings := rfl
  have hlingers : (start.after settings before).lingers refreshClaims := by
    unfold Moment.lingers
    rw [haround]
    decide
  rw [Moment.exchange_after hfresh carried_refreshToken refreshClaims_jti,
    if_pos (Moment.escapes_of_lingers halike hlingers)]
  have hholder : (start.after settings before).holder refreshClaims = .ok user.id := by
    unfold Moment.holder
    rw [haround]
    rfl
  apply Moment.isOk_renewal hholder
  apply State.exists_issuePair_eq_ok
  rw [haround]
  decide

theorem refreshToken_exchanged_once :
    settings.rotate = true ∧ ∃ p ∈ start.handedOut settings (presentTwice quarter),
      ((start.exchanges settings p.refresh (presentTwice quarter)).filter
        (· < p.refreshExpiresAt.seconds)).length ≤ 1 := by
  obtain ⟨p, hrefresh, hexpires, hp⟩ := exists_handedOut
  have hfresh : start.state = .new settings := rfl
  have hids (n : Nat) : start.around.ids n ≠ "" := by
    simp [start]
  have hcarried : carried settings .refresh p.refresh = some refreshClaims := by
    rw [hrefresh, carried_refreshToken]
  obtain ⟨_, _, honce⟩ := (Moment.exchanges_of_handedOut hfresh rfl hids (hp quarter)).2
    refreshClaims hcarried
  exact ⟨rfl, p, hp quarter, (honce (expireAlike_presentTwice quarter)).1⟩

/-- A refresh token brings two pairs although exchanging it is meant to use it up. -/
theorem refreshToken_exchanged_twice :
    settings.rotate = true ∧ ∃ p ∈ start.handedOut settings (presentTwice half),
      start.exchanges settings p.refresh (presentTwice half) = [1700000001, 1700000001] := by
  obtain ⟨p, hrefresh, _, hp⟩ := exists_handedOut
  refine ⟨rfl, p, hp half, ?_⟩
  have hfirst := isOk_exchange_half [.login request origin, .advance half] rfl
    (Moment.expireAlike_before [.refresh refreshToken, .refresh refreshToken]
      (expireAlike_presentTwice half))
  have hsecond := isOk_exchange_half [.login request origin, .advance half, .refresh refreshToken]
    rfl (Moment.expireAlike_before [.refresh refreshToken]
      (expireAlike_presentTwice half))
  have hfirst' := Moment.exchangedIn_of_isOk hfirst
  have hsecond' := Moment.exchangedIn_of_isOk hsecond
  simp only [Moment.after_cons, Moment.after_nil] at hfirst' hsecond'
  rw [hrefresh]
  unfold presentTwice
  simp only [Moment.exchanges, hfirst', hsecond']
  rfl

end Sample

end Gatehouse.Service
