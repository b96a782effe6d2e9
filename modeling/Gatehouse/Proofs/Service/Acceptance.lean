import Gatehouse.Proofs.Service.Rotation
import Gatehouse.Proofs.Token.Length

/-! Whether the service takes the tokens that it hands out. It does for as long as they are valid,
but for one thing: a presented token may only be so long, while the issuer in every token may have
any length. Under a long issuer no token is taken at all. -/
namespace Gatehouse.Service

open Token (Claims)

section

variable {settings : Settings}

namespace Moment

/-- Whether a token with some text and claims is still good at this moment: not too long to be
presented, not out of date and not revoked. -/
def honours (m : Moment) (text : String) (c : Claims) : Bool :=
  text.utf8ByteSize ≤ maxTokenLength && m.around.clock.second ≤ c.expires.toInt &&
    !m.isRevoked c.jti

variable {m : Moment}

/-- From 1970 on, an issued token is taken as long as it is good. -/
theorem taken_issued {kind : Token.Kind} {user : UserId} {jti : String} {t : Timestamp}
    {issued : Token.Issued} (h : Token.issue settings.tokens kind user jti t = some issued)
    (hepoch : 0 ≤ m.around.clock.second) :
    let claims := Token.claimsFor settings.tokens kind user jti t issued.expiresAt
    m.taken settings kind issued.text =
      if m.honours issued.text claims then .ok claims else .error .tokenInvalid := by
  intro claims
  have hexpires : claims.expires.toInt = issued.expiresAt.seconds :=
    (Token.toInt_ofInt_seconds (Token.issue_eq_some h).1).2
  unfold taken verified honours
  rw [Token.checkToken_issue h, hexpires]
  by_cases hsize : issued.text.utf8ByteSize ≤ maxTokenLength
  · simp only [hsize, if_true, Token.verify_of_issue h hepoch]
    by_cases hcurrent : m.around.clock.second ≤ issued.expiresAt.seconds
    · cases hrevoked : m.isRevoked jti <;> simp [claims, Token.claimsFor, hcurrent, hrevoked]
    · simp [hcurrent]
  · simp [hsize]

theorem exchange_issued {user : UserId} {jti : String} {t : Timestamp} {issued : Token.Issued}
    (h : Token.issue settings.tokens .refresh user jti t = some issued)
    (hepoch : 0 ≤ m.around.clock.second) :
    let claims := Token.claimsFor settings.tokens .refresh user jti t issued.expiresAt
    m.exchange settings issued.text =
      if m.honours issued.text claims then m.renewal settings claims
      else .error (.error .tokenInvalid) := by
  intro claims
  rw [exchange_eq, taken_issued h hepoch]
  cases m.honours issued.text claims <;> rfl

end Moment

/-! ## What an event hands out -/

theorem State.isOk_issuePair_iff {s : State} {around : Surroundings} {user : UserId} :
    (s.issuePair settings around user).1.isOk = true ↔ inCalendar settings around.clock = true := by
  have hmap : (s.issuePair settings around user).1.map (fun _ => ()) = _ :=
    s.map_issuePair user ()
  cases hpair : (s.issuePair settings around user).1 <;>
    cases hcalendar : inCalendar settings around.clock <;>
    simp_all [Except.map, Except.isOk, Except.toBool]

namespace Moment

/-- The user to whom an event hands a pair, and the pair. -/
def handsTo (settings : Settings) (m : Moment) : Event → Option (UserId × Token.Pair)
  | .login request origin =>
    (m.state.login settings m.around request origin).1.answer.toOption.map fun r =>
      (r.user.id, r.tokens)
  | .refresh token => do
    let claims ← (m.taken settings .refresh token).toOption
    let user ← (m.holder claims).toOption
    let pair ← (m.exchange settings token).toOption
    return (user, pair)
  | _ => none

variable {m start : Moment} {user : UserId} {p : Token.Pair}

theorem issuePair_of_handsTo {e : Event} (h : m.handsTo settings e = some (user, p)) :
    ∃ s : State, (s.issuePair settings m.around user).1 = .ok p := by
  cases e with
  | login request origin =>
    simp only [handsTo, Option.map_eq_some_iff] at h
    obtain ⟨response, hresponse, heq⟩ := h
    cases heq
    obtain ⟨s, -, hs⟩ := State.issuePair_of_login (eq_ok_of_toOption hresponse)
    exact ⟨s, hs⟩
  | refresh token =>
    simp only [handsTo, Option.bind_eq_bind, Option.bind_eq_some_iff] at h
    obtain ⟨c, hc, id, hid, pair, hpair, heq⟩ := h
    cases heq
    obtain ⟨c', id', hc', hid', hs⟩ := taken_of_exchange (eq_ok_of_toOption hpair)
    rw [eq_ok_of_toOption hc] at hc'
    cases hc'
    rw [eq_ok_of_toOption hid] at hid'
    cases hid'
    exact ⟨m.state, hs⟩
  | _ => simp only [handsTo, reduceCtorEq] at h

theorem ids_after (events : List Event) :
    (m.after settings events).around.ids = m.around.ids := by
  induction events generalizing m with
  | nil => rfl
  | cons e events ih => rw [after_cons, ih, ids_step]

/-- An id that a run of a fresh service never revokes is not revoked. -/
theorem isRevoked_eq_false (hfresh : start.state = .new settings) {events : List Event}
    {jti : String} (hnever : ∀ r ∈ start.revocations settings events, r.jti ≠ jti) :
    (start.after settings events).isRevoked jti = false := by
  by_cases hjti : jti = ""
  · rw [hjti]
    rfl
  · rw [isRevoked_after hfresh hjti]
    cases hlast : lastOf jti (start.revocations settings events) with
    | none => rfl
    | some r =>
      obtain ⟨hmem, heq⟩ := mem_of_lastOf hlast
      exact absurd heq (hnever r hmem)

theorem isOk_holder_iff {c : Claims} (hsubject : c.subject = user.text) :
    (m.holder c).isOk = true ↔ ∃ account, m.around.directory.byId user = .ok (some account) := by
  have huser : c.userId = .ok user := by
    rw [Claims.userId, hsubject, UserId.parse_text, Except.mapError]
  unfold holder
  simp only [huser]
  rcases m.around.directory.byId user with e | _ | account
  · simp [Except.isOk, Except.toBool]
  · simp [Except.isOk, Except.toBool]
  · simp [Except.isOk, Except.toBool]

/-- Under a long issuer no token that is handed out is ever taken. -/
theorem not_taken_of_long_issuer {e : Event} (h : m.handsTo settings e = some (user, p))
    (hissuer : 3011 < (Json.str settings.tokens.issuer).size) (now : Moment) :
    now.whoCalls settings p.access = .error .tokenInvalid ∧
      now.exchange settings p.refresh = .error (.error .tokenInvalid) := by
  obtain ⟨s, hs⟩ := issuePair_of_handsTo h
  obtain ⟨access, refresh, haccess, hrefresh, rfl⟩ := State.issuePair_eq_ok hs
  have htaken {kind : Token.Kind} {jti : String} {t : Timestamp} {issued : Token.Issued}
      (hissue : Token.issue settings.tokens kind user jti t = some issued) :
      now.taken settings kind issued.text = .error .tokenInvalid := by
    have hsize := Nat.not_le.mpr (Token.lt_utf8ByteSize_issue hissue hissuer)
    unfold taken verified
    rw [Token.checkToken_issue hissue, if_neg hsize]
  constructor
  · rw [whoCalls_eq]
    exact htaken haccess
  · rw [exchange_eq]
    simp only [Token.Pair.ofIssued, htaken hrefresh]

theorem isOk_renewal_iff {c : Claims} (hsubject : c.subject = user.text) :
    (m.renewal settings c).isOk = true ↔
      (∃ account, m.around.directory.byId user = .ok (some account)) ∧
        inCalendar settings m.around.clock = true := by
  rw [← isOk_holder_iff hsubject]
  unfold renewal
  cases hholder : m.holder c with
  | error e => simp [Except.isOk, Except.toBool]
  | ok id =>
    have hheld : (Except.ok id : Except Error UserId).isOk = true := rfl
    have hissue : (m.state.issuePair settings m.around id).1.isOk = true ↔
        inCalendar settings m.around.clock = true := State.isOk_issuePair_iff
    simp only [hheld, true_and, ← hissue]

/-- A pair that is handed out at one moment of a run, seen from any later one from 1970 on. Each of
its tokens carries the user's id and is good until its second of expiry, if the run does not revoke
it and it is not too long. It is not if the issuer's name is of moderate length. The access token is
taken as long as it is good, and the refresh token as long as it is good, the user exists and the
calendar has room for new tokens. -/
theorem takes_handed_out {before : List Event} {e : Event}
    (h : (start.after settings before).handsTo settings e = some (user, p)) :
    ∃ access refresh : Claims,
      Token.open? (settings.tokens.secret .access) p.access.toList = some access ∧
      Token.open? (settings.tokens.secret .refresh) p.refresh.toList = some refresh ∧
      access.subject = user.text ∧ access.expires.toInt = p.accessExpiresAt.seconds ∧
      refresh.subject = user.text ∧ refresh.expires.toInt = p.refreshExpiresAt.seconds ∧
      ((∀ n, Token.Id.isWellFormed (start.around.ids n) = true) →
        (Json.str settings.tokens.issuer).size ≤ 2859 →
        p.access.utf8ByteSize ≤ maxTokenLength ∧ p.refresh.utf8ByteSize ≤ maxTokenLength) ∧
      ∀ later,
        let run := before ++ e :: later
        let now := start.after settings run
        (start.state = .new settings → ∀ jti,
          (∀ r ∈ start.revocations settings run, r.jti ≠ jti) → now.isRevoked jti = false) ∧
        (0 ≤ now.around.clock.second →
          now.whoCalls settings p.access =
            (if now.honours p.access access then .ok access else .error .tokenInvalid) ∧
          now.exchange settings p.refresh =
            (if now.honours p.refresh refresh then now.renewal settings refresh
              else .error (.error .tokenInvalid)) ∧
          ((now.renewal settings refresh).isOk = true ↔
            (∃ account, now.around.directory.byId user = .ok (some account)) ∧
              inCalendar settings now.around.clock = true)) := by
  obtain ⟨s, hs⟩ := issuePair_of_handsTo h
  obtain ⟨access, refresh, haccess, hrefresh, rfl⟩ := State.issuePair_eq_ok hs
  refine ⟨_, _, Token.open?_issue haccess, Token.open?_issue hrefresh, rfl,
    (Token.toInt_ofInt_seconds (Token.issue_eq_some haccess).1).2, rfl,
    (Token.toInt_ofInt_seconds (Token.issue_eq_some hrefresh).1).2, ?_, ?_⟩
  · intro hids hissuer
    rw [ids_after] at haccess hrefresh
    exact ⟨Token.utf8ByteSize_issue_le haccess (hids _) hissuer,
      Token.utf8ByteSize_issue_le hrefresh (hids _) hissuer⟩
  · intro later run now
    refine ⟨fun hfresh jti hnever => isRevoked_eq_false hfresh hnever, fun hepoch => ⟨?_, ?_, ?_⟩⟩
    · rw [whoCalls_eq]
      exact taken_issued haccess hepoch
    · exact exchange_issued hrefresh hepoch
    · exact isOk_renewal_iff rfl

end Moment

/-- A fresh service lets in who has the right password. -/
theorem login_of_fresh {m : Moment} (hfresh : m.state = .new settings) {request : LoginRequest}
    (hrequest : request.sanitize = .ok request) {user : User}
    (huser : m.around.directory.byUsername request.username = .ok (some user))
    (hpassword : m.around.verifier request.password (.stored user.passwordHash) = .ok ())
    (hcalendar : inCalendar settings m.around.clock = true) (origin : String) :
    ∃ pair, m.handsTo settings (.login request origin) = some (user.id, pair) := by
  have hunlocked (username : String) :
      isLocked settings m.around.clock.uptime m.state.store username = false := by
    unfold isLocked
    rw [hfresh, State.new, Counter.Store.live?_empty]
    exact Bool.and_false _
  have hunblocked : isBlocked settings m.around.clock.uptime m.state.store origin = false := by
    unfold isBlocked
    rw [hfresh, State.new, Counter.Store.live?_empty]
    exact Bool.and_false _
  have hlock := lockReading_of_sound settings m.sound m.state.store request.username
  rw [hunlocked] at hlock
  obtain ⟨block, hblock, hblocked⟩ := blockReading_of_sound settings m.sound
    (lockReading settings m.around m.state.store request.username).2 origin
  rw [isBlocked_lockReading, hunblocked] at hblocked
  have hcompares := compares_of_readings hrequest hlock hblock huser
  rw [hblocked] at hcompares
  obtain ⟨pair, hanswer, -⟩ := (hcompares.letIn user ⟨rfl, rfl, rfl, hpassword⟩).2 hcalendar
  refine ⟨pair, ?_⟩
  simp only [Moment.handsTo, hanswer, Except.toOption, Option.map_some]

end

/-! ## A sign-in with a short issuer, and one with a long issuer -/

namespace Sample

def firstId : String := "00000000-0000-4000-8000-000000000000"

def secondId : String := "00000000-0000-4000-8000-000000000001"

/-- The sample service with ids as they are drawn. -/
def drawing : Moment :=
  { start with around := { start.around with ids := fun n => if n = 0 then firstId else secondId } }

theorem isWellFormed_ids (n : Nat) : Token.Id.isWellFormed (drawing.around.ids n) = true := by
  change Token.Id.isWellFormed (if n = 0 then firstId else secondId) = true
  split
  · decide
  · decide

/-- The sample settings with another issuer. -/
def settingsOf (issuer : String) : Settings :=
  { settings with tokens := { settings.tokens with issuer } }

/-- Both tokens of a sign-in expire one second later. -/
theorem shift?_lifetime (issuer : String) (kind : Token.Kind) :
    drawing.around.clock.wall.shift? ((settingsOf issuer).tokens.lifetime kind) =
      some refreshExpiresAt := by
  cases kind <;> rfl

/-- Alice signs in under any issuer, and both her tokens expire in a second. -/
theorem signs_in (issuer : String) : ∃ pair,
    drawing.handsTo (settingsOf issuer) (.login request origin) = some (user.id, pair) ∧
      pair.accessExpiresAt = refreshExpiresAt ∧ pair.refreshExpiresAt = refreshExpiresAt := by
  have hfresh : drawing.state = .new (settingsOf issuer) := rfl
  have haccess := shift?_lifetime issuer .access
  have hrefresh := shift?_lifetime issuer .refresh
  have hcalendar : inCalendar (settingsOf issuer) drawing.around.clock = true := by
    change (Option.isSome _ && Option.isSome _) = true
    rw [Bool.and_eq_true]
    exact ⟨Option.isSome_of_eq_some haccess, Option.isSome_of_eq_some hrefresh⟩
  have huser : drawing.around.directory.byUsername request.username = .ok (some user) := rfl
  obtain ⟨pair, hpair⟩ := login_of_fresh hfresh sanitize_request huser (by decide) hcalendar origin
  obtain ⟨s, hs⟩ := Moment.issuePair_of_handsTo hpair
  obtain ⟨access, refresh, hissued, hissued', rfl⟩ := State.issuePair_eq_ok hs
  rw [(Token.issue_eq_some hissued).1, Option.some.injEq] at haccess
  rw [(Token.issue_eq_some hissued').1, Option.some.injEq] at hrefresh
  exact ⟨_, hpair, haccess, hrefresh⟩

/-- A quarter of a second after signing in under a short issuer both tokens are taken. -/
theorem taken_after_signing_in : ∃ pair claims,
    let now := drawing.after (settingsOf "portcullis") [.login request origin, .advance quarter]
    drawing.handsTo (settingsOf "portcullis") (.login request origin) = some (user.id, pair) ∧
    now.whoCalls (settingsOf "portcullis") pair.access = .ok claims ∧ claims.subject = "7" ∧
    (now.exchange (settingsOf "portcullis") pair.refresh).isOk = true := by
  have hfresh : drawing.state = .new (settingsOf "portcullis") := rfl
  obtain ⟨pair, hpair, haccessAt, hrefreshAt⟩ := signs_in "portcullis"
  obtain ⟨access, refresh, -, -, hsubject, haccess, -, hrefresh, hshort, htaken⟩ :=
    Moment.takes_handed_out (show (drawing.after (settingsOf "portcullis") []).handsTo
      (settingsOf "portcullis") (.login request origin) = some (user.id, pair) from hpair)
  obtain ⟨hsize, hsize'⟩ := hshort isWellFormed_ids (by decide)
  obtain ⟨hnever, hat⟩ := htaken [.advance quarter]
  have hrevoked (jti : String) := hnever hfresh jti fun r hr => absurd hr List.not_mem_nil
  have hepoch : 0 ≤ (clock.advance quarter).second := by decide
  obtain ⟨hwho, hexchange, hrenewal⟩ := hat hepoch
  have hsecond : (clock.advance quarter).second ≤ refreshExpiresAt.seconds := by decide
  have hgood {text : String} {c : Claims} (htext : text.utf8ByteSize ≤ maxTokenLength)
      (hexpires : c.expires.toInt = refreshExpiresAt.seconds) :
      (drawing.after (settingsOf "portcullis")
        ([] ++ .login request origin :: [.advance quarter])).honours text c = true := by
    simp only [Moment.honours, htext, hrevoked, hexpires, decide_true, Bool.not_false,
      Bool.and_true, Bool.true_and, decide_eq_true_eq]
    exact hsecond
  rw [if_pos (hgood hsize (haccessAt ▸ haccess))] at hwho
  rw [if_pos (hgood hsize' (hrefreshAt ▸ hrefresh))] at hexchange
  refine ⟨pair, access, hpair, hwho, hsubject, ?_⟩
  exact hexchange ▸ hrenewal.mpr ⟨⟨user, rfl⟩, by decide⟩

/-- Under a long issuer neither token is taken at the very moment of signing in, though both are
current and not revoked and the user exists. -/
theorem turned_down {issuer : String} (hlong : 3011 < (Json.str issuer).size) : ∃ pair,
    let now := drawing.after (settingsOf issuer) [.login request origin]
    drawing.handsTo (settingsOf issuer) (.login request origin) = some (user.id, pair) ∧
    now.around.clock.second ≤ pair.accessExpiresAt.seconds ∧
    now.around.clock.second ≤ pair.refreshExpiresAt.seconds ∧
    (∀ jti, now.isRevoked jti = false) ∧
    now.around.directory.byId user.id = .ok (some user) ∧
    now.whoCalls (settingsOf issuer) pair.access = .error .tokenInvalid ∧
    now.exchange (settingsOf issuer) pair.refresh = .error (.error .tokenInvalid) := by
  have hfresh : drawing.state = .new (settingsOf issuer) := rfl
  have hsecond : start.around.clock.second ≤ refreshExpiresAt.seconds := by decide
  obtain ⟨pair, hpair, haccess, hrefresh⟩ := signs_in issuer
  obtain ⟨hwho, hexchange⟩ := Moment.not_taken_of_long_issuer hpair hlong
    (drawing.after (settingsOf issuer) [.login request origin])
  refine ⟨pair, hpair, ?_, ?_, ?_, rfl, hwho, hexchange⟩
  · rw [haccess]
    exact hsecond
  · rw [hrefresh]
    exact hsecond
  · intro jti
    exact Moment.isRevoked_eq_false hfresh fun r hr => absurd hr List.not_mem_nil

def longIssuer : String := .ofList (List.replicate 3072 'i')

theorem size_longIssuer : (Json.str longIssuer).size = 3074 := by
  have hbare : ∀ c ∈ List.replicate 3072 'i', Json.isBare c = true := by
    intro c hc
    rw [List.eq_of_mem_replicate hc]
    decide
  unfold longIssuer
  rw [Json.size_str hbare, List.length_replicate]

/-- A service with a long issuer turns down the tokens that it hands out. -/
theorem turned_down_under_long_issuer : ∃ pair,
    let now := drawing.after (settingsOf longIssuer) [.login request origin]
    drawing.handsTo (settingsOf longIssuer) (.login request origin) = some (user.id, pair) ∧
    now.around.clock.second ≤ pair.accessExpiresAt.seconds ∧
    now.around.clock.second ≤ pair.refreshExpiresAt.seconds ∧
    (∀ jti, now.isRevoked jti = false) ∧
    now.around.directory.byId user.id = .ok (some user) ∧
    now.whoCalls (settingsOf longIssuer) pair.access = .error .tokenInvalid ∧
    now.exchange (settingsOf longIssuer) pair.refresh = .error (.error .tokenInvalid) := by
  have hlong : 3011 < (Json.str longIssuer).size := by
    rw [size_longIssuer]
    decide
  exact turned_down hlong

end Sample

end Gatehouse.Service
