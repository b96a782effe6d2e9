import Gatehouse.Proofs.Service.Revocation
import Gatehouse.Proofs.Token.Plain

/-! How final a logout is. The tokens that it revokes are turned down from then on, with one
exception: a token counts as valid to the end of the second in which it expires, but its revocation
ends at the instant of expiry, so for the rest of that second it is taken again. -/
namespace Gatehouse.Service

open Token (Claims)

section

variable {settings : Settings}

theorem carried_signed {kind : Token.Kind} {c : Claims}
    (hlength : (Token.encodeJson c.toJson).length + 81 ≤ maxTokenLength)
    (hexpires : 0 ≤ c.expires.toInt) (hissuer : c.issuer = settings.tokens.issuer)
    (hkind : c.kind = kind) :
    carried settings kind (String.ofList (Token.signed (settings.tokens.secret kind) c)) =
      some c := by
  unfold carried
  rw [Token.checkToken_signed hlength]
  simp only [String.toList_ofList, Token.open?_signed]
  simp [Option.filter, hexpires, hissuer, hkind]

/-- What a signed token carries is what was signed. -/
theorem eq_of_carried_signed {kind : Token.Kind} {c d : Claims}
    (h : carried settings kind (String.ofList (Token.signed (settings.tokens.secret kind) d)) =
      some c) : c = d := by
  have htrim := Text.trim_ofList (Token.isPlain_signed (settings.tokens.secret kind) d)
  unfold carried at h
  split at h
  · simp only [reduceCtorEq] at h
  · rename_i text htext
    unfold checkToken at htext
    simp only [htrim] at htext
    split at htext
    · simp only [reduceCtorEq] at htext
    · split at htext
      · simp only [reduceCtorEq] at htext
      · cases htext
        rw [Option.filter_eq_some_iff, String.toList_ofList, Token.open?_signed] at h
        exact (Option.some.inj h.1).symm

namespace Moment

/-- The pair that the claims of a refresh token bring at this moment, if the token is taken. -/
def renewal (settings : Settings) (m : Moment) (c : Claims) : Except Refusal Token.Pair :=
  match m.holder c with
  | .error e => .error (.error e)
  | .ok id => (m.state.issuePair settings m.around id).1

theorem isOk_renewal {m : Moment} {c : Claims} {id : UserId} (hholder : m.holder c = .ok id)
    (hpair : ∃ p, (m.state.issuePair settings m.around id).1 = .ok p) :
    (m.renewal settings c).isOk = true := by
  obtain ⟨p, hp⟩ := hpair
  unfold renewal
  simp only [hholder, hp]
  rfl

/-- Whether a token has come to its instant of expiry and still counts as valid. -/
def lingers (m : Moment) (c : Claims) : Prop :=
  c.expiresAt.toNanos ≤ m.around.clock.wallNanos ∧ m.around.clock.second ≤ c.expires.toInt

instance (m : Moment) (c : Claims) : Decidable (m.lingers c) :=
  inferInstanceAs (Decidable (_ ∧ _))

variable {m : Moment} {token : String} {c : Claims}

/-- A token that expires in one of the supported years lingers during one second. -/
theorem lingers_iff (hc : Timestamp.inRange c.expires.toInt = true) :
    m.lingers c ↔ m.around.clock.second = c.expires.toInt := by
  unfold lingers Clock.second
  rw [Claims.toNanos_expiresAt hc]
  have hpos : (0 : Int) < nanosPerSecond := by decide
  rw [← Int.le_ediv_iff_mul_le hpos]
  omega

theorem whoCalls_eq (token : String) :
    m.whoCalls settings token = m.taken settings .access token := by
  unfold whoCalls authenticate
  rw [State.answer_run, answer_accepted]

theorem exchange_eq (token : String) :
    m.exchange settings token =
      match m.taken settings .refresh token with
      | .ok c => m.renewal settings c
      | .error e => .error (.error e) := by
  have hexchange : m.exchange settings token =
      match ((redeem settings m.around token).run m.around.context m.state.store).1 with
      | .error e => .error (.error e)
      | .ok id => (m.state.issuePair settings m.around id).1 := by
    unfold exchange State.refresh State.run
    rcases (redeem settings m.around token).run m.around.context m.state.store with ⟨_ | id, store⟩
    · rfl
    · rfl
  rw [hexchange, run_redeem_sound, ← answer_accepted]
  rcases (accepted settings m.around .refresh token).run m.around.context m.state.store
    with ⟨_ | c, store⟩
  · rfl
  · unfold renewal
    cases hholder : m.holder c <;> simp only [hholder]

/-! ## A run from a fresh service -/

variable {start : Moment}

theorem isRevoked_after (hfresh : start.state = .new settings) {jti : String} (hjti : jti ≠ "")
    (events : List Event) :
    (start.after settings events).isRevoked jti =
      (lastOf jti (start.revocations settings events)).any fun r =>
        r.endsAfter (start.after settings events).around.clock.wallNanos := by
  have hlisted : isListed (start.after settings events).state.store
      (start.after settings events).uptime jti =
        start.listing jti (start.after settings events).uptime
          (isListed start.state.store (start.after settings events).uptime jti)
          (start.revocations settings events) :=
    isListed_after hjti events (Nat.le_refl _)
  have hempty : isListed start.state.store (start.after settings events).uptime jti = false := by
    rw [hfresh]
    unfold isListed State.new
    rw [Counter.Store.live?_empty]
    rfl
  have hne : jti.isEmpty = false := by simpa using hjti
  unfold isRevoked
  rw [hlisted, hempty, hne]
  unfold listing Clock.wallNanos
  rw [start_after]
  cases lastOf jti (start.revocations settings events) <;> rfl

/-- Whether claims are taken at a moment in spite of all that was revoked before: the token counts
as valid, and the last revocation of its id has come to its own instant of expiry. -/
def escapes (m : Moment) (revoked : List Claims) (c : Claims) : Prop :=
  m.around.clock.second ≤ c.expires.toInt ∧
    (lastOf c.jti revoked).any (fun r => r.endsAfter m.around.clock.wallNanos) = false

instance (m : Moment) (revoked : List Claims) (c : Claims) : Decidable (m.escapes revoked c) :=
  inferInstanceAs (Decidable (_ ∧ _))

theorem taken_after (hfresh : start.state = .new settings) {kind : Token.Kind}
    (hc : carried settings kind token = some c) (hjti : c.jti ≠ "") (events : List Event) :
    (start.after settings events).taken settings kind token =
      if (start.after settings events).escapes (start.revocations settings events) c then .ok c
      else .error .tokenInvalid := by
  rw [taken_of_carried hc, isRevoked_after hfresh hjti events]
  rfl

theorem exchange_after (hfresh : start.state = .new settings)
    (hc : carried settings .refresh token = some c) (hjti : c.jti ≠ "") (events : List Event) :
    (start.after settings events).exchange settings token =
      if (start.after settings events).escapes (start.revocations settings events) c then
        (start.after settings events).renewal settings c
      else .error (.error .tokenInvalid) := by
  rw [exchange_eq, taken_after hfresh hc hjti events]
  by_cases hescapes : (start.after settings events).escapes (start.revocations settings events) c
  · simp only [if_pos hescapes]
  · simp only [if_neg hescapes]

theorem revocations_append (before later : List Event) :
    start.revocations settings (before ++ later) =
      start.revocations settings before ++
        (start.after settings before).revocations settings later := by
  induction before generalizing start with
  | nil => rfl
  | cons e before ih => simp only [List.cons_append, revocations, ih, after_cons, List.append_assoc]

/-- Whether every revocation of the claims' id has their expiry. -/
def ExpireAlike (revoked : List Claims) (c : Claims) : Prop :=
  ∀ r ∈ revoked, r.jti = c.jti → r.expires = c.expires

theorem ExpireAlike.endsAfter_lastOf {revoked : List Claims} (halike : ExpireAlike revoked c)
    {r : Claims} (h : lastOf c.jti revoked = some r) (wallNanos : Int) :
    r.endsAfter wallNanos = c.endsAfter wallNanos := by
  obtain ⟨hmem, hjti⟩ := mem_of_lastOf h
  have hexpires := halike r hmem hjti
  unfold Claims.endsAfter Claims.expiresAt
  rw [hexpires]

/-- Claims whose instant of expiry is still ahead at a later moment were revoked when they were
handed in. -/
theorem mem_revocations_of_handedIn {before later : List Event} {e : Event}
    (hc : c ∈ (start.after settings before).handedIn settings e)
    (hahead : c.endsAfter
      (start.after settings (before ++ e :: later)).around.clock.wallNanos = true) :
    c ∈ start.revocations settings (before ++ e :: later) := by
  have hwall : (start.after settings before).around.clock.wallNanos ≤
      ((start.after settings before).after settings (e :: later)).around.clock.wallNanos :=
    (precedes_after settings _ (e :: later)).wallNanos_le
  rw [← after_append] at hwall
  have hlifetime : 0 < c.remainingLifetime (start.after settings before).around.clock := by
    simp only [Claims.endsAfter, decide_eq_true_eq] at hahead
    unfold Claims.remainingLifetime
    omega
  have hrevoked : c ∈ (start.after settings before).revokes settings e :=
    List.mem_filter.mpr ⟨hc, decide_eq_true hlifetime⟩
  rw [revocations_append, revocations]
  apply List.mem_append_right
  exact List.mem_append_left _ hrevoked

/-- A token that an event hands to the list of revoked ids is turned down until its instant of
expiry, unless the run revokes its id with another expiry. -/
theorem isRevoked_of_handedIn (hfresh : start.state = .new settings) {before later : List Event}
    {e : Event} (hc : c ∈ (start.after settings before).handedIn settings e) (hjti : c.jti ≠ "")
    (halike : ExpireAlike (start.revocations settings (before ++ e :: later)) c) :
    (start.after settings (before ++ e :: later)).isRevoked c.jti =
      c.endsAfter (start.after settings (before ++ e :: later)).around.clock.wallNanos := by
  rw [isRevoked_after hfresh hjti]
  cases hlast : lastOf c.jti (start.revocations settings (before ++ e :: later)) with
  | none =>
    -- Had the instant of expiry still been ahead, the event would have revoked the claims.
    have hended : ¬c.endsAfter
        (start.after settings (before ++ e :: later)).around.clock.wallNanos = true :=
      fun hahead => lastOf_ne_none (mem_revocations_of_handedIn hc hahead) hlast
    rw [Option.any_none, eq_false_of_ne_true hended]
  | some r => rw [Option.any_some, halike.endsAfter_lastOf hlast]

/-- What is handed to the list of revoked ids escapes only while it lingers. -/
theorem escapes_iff_lingers (hfresh : start.state = .new settings) {before later : List Event}
    {e : Event} (hc : c ∈ (start.after settings before).handedIn settings e) (hjti : c.jti ≠ "")
    (halike : ExpireAlike (start.revocations settings (before ++ e :: later)) c) :
    (start.after settings (before ++ e :: later)).escapes
        (start.revocations settings (before ++ e :: later)) c ↔
      (start.after settings (before ++ e :: later)).lingers c := by
  have hrevoked := isRevoked_of_handedIn hfresh hc hjti halike
  rw [isRevoked_after hfresh hjti] at hrevoked
  unfold escapes lingers
  rw [hrevoked]
  unfold Claims.endsAfter
  rw [decide_eq_false_iff_not, Int.not_lt, and_comm]

/-- A logout, seen from any later moment of the run. -/
theorem answers_after_logout (hfresh : start.state = .new settings) (before later : List Event)
    (access refresh : String)
    (hc : (start.after settings before).whoCalls settings access = .ok c) (hjti : c.jti ≠ "") :
    let run := before ++ .logout c refresh :: later
    let now := start.after settings run
    let revoked := start.revocations settings run
    now.whoCalls settings access =
        (if now.escapes revoked c then .ok c else .error .tokenInvalid) ∧
      (ExpireAlike revoked c → (now.escapes revoked c ↔ now.lingers c)) ∧
      ∀ d, verified settings (start.after settings before).around .refresh refresh = .ok d →
        d.subject = c.subject → d.jti ≠ "" →
        now.exchange settings refresh =
            (if now.escapes revoked d then now.renewal settings d
              else .error (.error .tokenInvalid)) ∧
          (ExpireAlike revoked d → (now.escapes revoked d ↔ now.lingers d)) := by
  intro run now revoked
  rw [whoCalls_eq] at hc ⊢
  have hcarried := carried_of_taken hc
  have hkind : c.kind = .access := kind_of_carried hcarried
  have hhanded : c ∈ (start.after settings before).handedIn settings (.logout c refresh) := by
    simp [handedIn, hkind]
  refine ⟨taken_after hfresh hcarried hjti run, escapes_iff_lingers hfresh hhanded hjti, ?_⟩
  intro d hd hsubject hdjti
  have hdhanded : d ∈ (start.after settings before).handedIn settings (.logout c refresh) := by
    simp [handedIn, hkind, partner, hd, hsubject]
  have hdcarried := (verified_eq_ok_iff.mp hd).1
  exact ⟨exchange_after hfresh hdcarried hdjti run, escapes_iff_lingers hfresh hdhanded hdjti⟩

end Moment

end

/-! ## A session that ends half a second before its tokens expire -/

namespace Sample

def claims (kind : Token.Kind) : Claims :=
  ⟨user.id.text, kind.text, 1700000000, 1700000001, Token.Config.defaultIssuer, kind⟩

def token (kind : Token.Kind) : String :=
  .ofList (Token.signed (settings.tokens.secret kind) (claims kind))

theorem carried_token (kind : Token.Kind) :
    carried settings kind (token kind) = some (claims kind) := by
  have hlength : (Token.encodeJson (claims kind).toJson).length + 81 ≤ maxTokenLength := by
    rw [Token.length_encodeJson]
    cases kind <;> decide
  exact carried_signed hlength (by cases kind <;> decide) rfl rfl

theorem verified_token (kind : Token.Kind) :
    verified settings start.around kind (token kind) = .ok (claims kind) := by
  rw [verified_eq_ok_iff]
  exact ⟨carried_token kind, by cases kind <;> decide⟩

theorem whoCalls_token : start.whoCalls settings (token .access) = .ok (claims .access) := by
  have hfresh : start.state = .new settings := rfl
  have hjti : (claims .access).jti ≠ "" := by decide
  have hrevoked : start.isRevoked (claims .access).jti = false :=
    Moment.isRevoked_after hfresh hjti []
  rw [Moment.whoCalls_eq, Moment.taken_of_verified (verified_token .access) hrevoked]

def afterLogout (span : Span) : List Event :=
  [.logout (claims .access) (token .refresh), .advance span]

theorem around_afterLogout (span : Span) :
    (start.after settings (afterLogout span)).around =
      { start.around with clock := clock.advance span } := rfl

theorem revocations_afterLogout (span : Span) :
    start.revocations settings (afterLogout span) = [claims .access, claims .refresh] := by
  have hahead (kind : Token.Kind) :
      decide (0 < (claims kind).remainingLifetime start.around.clock) = true := by
    cases kind <;> decide
  have hsubject : (claims .refresh).subject = (claims .access).subject := rfl
  unfold afterLogout
  rw [Moment.revocations_advance, Moment.revokes_logout _ _ rfl (verified_token .refresh) hsubject]
  apply List.filter_eq_self.mpr
  intro c hc
  simp only [List.mem_cons, List.not_mem_nil, or_false] at hc
  rcases hc with rfl | rfl
  · exact hahead .access
  · exact hahead .refresh

def quarter : Span := .ofNanos 250000000

def half : Span := .ofNanos 500000000

theorem tokens_after_logout :
    start.whoCalls settings (token .access) = .ok (claims .access) ∧
    let now := start.after settings (afterLogout quarter)
    now.whoCalls settings (token .access) = .error .tokenInvalid ∧
      now.exchange settings (token .refresh) = .error (.error .tokenInvalid) := by
  refine ⟨whoCalls_token, ?_⟩
  have hturned (kind : Token.Kind) :
      ¬(start.after settings (afterLogout quarter)).escapes
        (start.revocations settings (afterLogout quarter)) (claims kind) := by
    unfold Moment.escapes
    rw [around_afterLogout, revocations_afterLogout]
    cases kind <;> decide
  have hfresh : start.state = .new settings := rfl
  obtain ⟨haccess, -, hrefresh⟩ := Moment.answers_after_logout hfresh []
    [.advance quarter] (token .access) (token .refresh) whoCalls_token (by decide)
  have hexchange := (hrefresh (claims .refresh) (verified_token .refresh) rfl (by decide)).1
  exact ⟨haccess.trans (if_neg (hturned .access)), hexchange.trans (if_neg (hturned .refresh))⟩

/-- Half a second later both are taken again: they count as valid to the end of the second, and what
revoked them has lapsed. -/
theorem tokens_outlive_revocation :
    start.whoCalls settings (token .access) = .ok (claims .access) ∧
    let now := start.after settings (afterLogout half)
    now.whoCalls settings (token .access) = .ok (claims .access) ∧
      (now.exchange settings (token .refresh)).isOk = true := by
  refine ⟨whoCalls_token, ?_⟩
  have hescapes (kind : Token.Kind) :
      (start.after settings (afterLogout half)).escapes
        (start.revocations settings (afterLogout half)) (claims kind) := by
    unfold Moment.escapes
    rw [around_afterLogout, revocations_afterLogout]
    cases kind <;> decide
  have hfresh : start.state = .new settings := rfl
  have hjti (kind : Token.Kind) : (claims kind).jti ≠ "" := by
    cases kind <;> decide
  constructor
  · rw [Moment.whoCalls_eq, Moment.taken_after hfresh (carried_token _) (hjti _),
      if_pos (hescapes .access)]
  · rw [Moment.exchange_after hfresh (carried_token _) (hjti _), if_pos (hescapes .refresh)]
    unfold Moment.renewal Moment.holder
    rw [around_afterLogout]
    rfl

end Sample

end Gatehouse.Service
