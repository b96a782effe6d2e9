import Gatehouse.Proofs.Database.Identity
import Gatehouse.Proofs.Database.Standing
import Gatehouse.Proofs.Service.Login
import Gatehouse.Proofs.Service.Logout
import Gatehouse.Proofs.Token.Verified

/-! When a refresh token is exchanged and what that leaves behind, whichever calls of the counters
or of the directory fail. An exchange that is refused leaves no trace, so that the token can be
presented again; one that is granted leaves at most the token's own entry. -/
namespace Gatehouse

/-- Whoever is found under an id has that id. -/
def Directory.Keyed (d : Directory) : Prop := ∀ id user, d.byId id = .ok (some user) → user.id = id

/-- So is every directory that calls have made. -/
theorem Database.keyed_made (operations : List Operation) : (made operations).directory.Keyed := by
  intro id user h
  change ((Accounts.findById id).run (made operations)).1 = _ at h
  unfold Accounts.findById at h
  split at h
  · cases h
  · rename_i n hn
    obtain ⟨-, hn⟩ := Option.ite_none_right_eq_some.mp hn
    have hrow : (made operations).rows.users.rows[n]? = some user := answer_query h
    apply UserId.toNat_inj.mp
    rw [identified_made operations n user hrow, Option.some.inj hn]

namespace Service

open Counter (Action Key Operation Store)
open Counter.Action
open Token (Claims)

section

variable {settings : Settings} {m : Moment} {fails : Operation → String → Bool} {token : String}
  {c : Claims} {store : Store}

theorem seenAs_entered_congr {s t : Store} {now : Uptime} {clock : Clock}
    (h : Store.SeenAs now s t) (c : Claims) :
    Store.SeenAs now (entered clock s c) (entered clock t c) :=
  fun later hlater key => live?_entered_congr (h later hlater key) c

theorem State.refresh_of_redeem_ok {s : State} {around : Surroundings} {id : UserId}
    (h : ((redeem settings around token).run around.context s.store).1 = .ok id) :
    s.refresh settings around token =
      { s with store := ((redeem settings around token).run around.context s.store).2 }.issuePair
        settings around id := by
  unfold refresh State.run
  rcases hrun : (redeem settings around token).run around.context s.store with ⟨answer, store⟩
  rw [hrun] at h
  cases h
  rfl

theorem State.refresh_of_redeem_error {s : State} {around : Surroundings} {e : Error}
    (h : ((redeem settings around token).run around.context s.store).1 = .error e) :
    s.refresh settings around token = (.error (.error e),
      { s with store := ((redeem settings around token).run around.context s.store).2 }) := by
  unfold refresh State.run
  rcases hrun : (redeem settings around token).run around.context s.store with ⟨answer, store⟩
  rw [hrun] at h
  cases h
  rfl

namespace Moment

/-- Whether the list of revoked ids can be read and does not hold the id of the claims, if they have
one. -/
def Unlisted (m : Moment) (fails : Operation → String → Bool) (store : Store) (c : Claims) : Prop :=
  c.jti ≠ "" → fails .contains (Key.revoked c.jti).text = false ∧
    store.live? m.uptime (Key.revoked c.jti).text = none

theorem answer_isRevoked_eq_false_iff :
    ((Revocation.isRevoked c.jti).run (m.failing fails).context store).1 = .ok false ↔
      m.Unlisted fails store c := by
  unfold Revocation.isRevoked Unlisted
  by_cases hjti : c.jti = ""
  · simp [hjti]
  · have hfails : (m.failing fails).context.fails = fails := rfl
    simp only [String.isEmpty_iff, hjti, if_false, ne_eq, not_false_eq_true, true_implies]
    rw [contains, run_call, hfails]
    cases fails .contains (Key.revoked c.jti).text with
    | true => simp
    | false => simp [Store.contains, failing, Surroundings.context, uptime]

theorem answer_accepted_eq_ok_iff {kind : Token.Kind} :
    ((accepted settings (m.failing fails) kind token).run (m.failing fails).context store).1 =
        .ok c ↔
      Presents settings m.around.clock kind token c ∧ m.Unlisted fails store c := by
  unfold accepted
  rw [← verified_eq_ok_iff_presents, ← answer_isRevoked_eq_false_iff (c := c), verified_failing]
  simp only [answer_bind_eq_ok_iff, run_lift]
  constructor
  · rintro ⟨d, hverified, revoked, hrevoked, h⟩
    cases revoked with
    | true => cases h
    | false =>
      obtain rfl : d = c := Except.ok.inj h
      exact ⟨hverified, hrevoked⟩
  · rintro ⟨hverified, hunlisted⟩
    exact ⟨c, hverified, false, hunlisted, rfl⟩

theorem holder_eq_ok_iff {id : UserId} :
    m.holder c = .ok id ↔ ∃ user, user.id = id ∧
      ∃ presented, c.userId = .ok presented ∧
        m.around.directory.byId presented = .ok (some user) := by
  unfold holder
  cases c.userId with
  | error e => simp
  | ok presented =>
    simp only [Except.ok.injEq, exists_eq_left']
    cases m.around.directory.byId presented with
    | error e => simp
    | ok found =>
      cases found with
      | none => simp
      | some user => simp

/-- What lets a token be exchanged: it is presented as it has to be, its id is read as not revoked,
a user is found under its subject, and its own entry can be made, if rotation asks for one. -/
structure Renews (settings : Settings) (m : Moment) (fails : Operation → String → Bool)
    (token : String) (c : Claims) (user : User) : Prop where
  presents : Presents settings m.around.clock .refresh token c
  unlisted : m.Unlisted fails m.state.store c
  found : ∃ id, c.userId = .ok id ∧ m.around.directory.byId id = .ok (some user)
  writable : settings.rotate = true → c.Listable m.around.clock →
    fails .setFlag (Key.revoked c.jti).text = false

/-- The store that an exchange leaves behind, as readers see it. -/
def spent (settings : Settings) (m : Moment) (c : Claims) : Store :=
  if settings.rotate then entered m.around.clock m.state.store c else m.state.store

theorem seenAs_accepted {kind : Token.Kind} :
    Store.SeenAs m.uptime
      ((accepted settings (m.failing fails) kind token).run (m.failing fails).context store).2
      store :=
  fun later hlater _ => spares_accepted (m.failing fails).context store later hlater

/-- A token is redeemed for a user exactly if it renews, and is spent then; otherwise nothing is
seen to have happened. -/
theorem redeem_cases (settings : Settings) (m : Moment) (fails : Operation → String → Bool)
    (token : String) :
    let result := (redeem settings (m.failing fails) token).run (m.failing fails).context
      m.state.store
    (∃ c user, Renews settings m fails token c user ∧ result.1 = .ok user.id ∧
      Store.SeenAs m.uptime result.2 (m.spent settings c)) ∨
    ((∀ c user, ¬Renews settings m fails token c user) ∧ (∃ e, result.1 = .error e) ∧
      Store.SeenAs m.uptime result.2 m.state.store) := by
  intro result
  have hresult : result = _ := m.run_redeem settings fails token m.state.store
  have hseen : Store.SeenAs m.uptime ((accepted settings (m.failing fails) .refresh token).run
      (m.failing fails).context m.state.store).2 m.state.store := seenAs_accepted
  have haccepted (c : Claims) : _ ↔ Presents settings m.around.clock .refresh token c ∧
      m.Unlisted fails m.state.store c := answer_accepted_eq_ok_iff
  rw [hresult]
  generalize (accepted settings (m.failing fails) .refresh token).run (m.failing fails).context
    m.state.store = run at haccepted hseen
  obtain ⟨_ | c, store⟩ := run
  · refine .inr ⟨fun c user h => ?_, ⟨_, rfl⟩, hseen⟩
    cases (haccepted c).mpr ⟨h.presents, h.unlisted⟩
  · have honly {c' : Claims} {user : User} (h : Renews settings m fails token c' user) : c = c' :=
      Except.ok.inj ((haccepted c').mpr ⟨h.presents, h.unlisted⟩)
    cases hholder : m.holder c with
    | error e =>
      simp only [hholder]
      refine .inr ⟨fun c' user h => ?_, ⟨e, rfl⟩, hseen⟩
      obtain rfl := honly h
      rw [holder_eq_ok_iff.mpr ⟨user, rfl, h.found⟩] at hholder
      cases hholder
    | ok id =>
      obtain ⟨user, rfl, hfound⟩ := holder_eq_ok_iff.mp hholder
      obtain ⟨hpresents, hunlisted⟩ := (haccepted c).mp rfl
      simp only [hholder]
      by_cases hstuck : settings.rotate = true ∧ c.Listable m.around.clock ∧
          fails .setFlag (Key.revoked c.jti).text = true
      · rw [if_pos hstuck]
        refine .inr ⟨fun c' user h => ?_, ⟨_, rfl⟩, hseen⟩
        obtain rfl := honly h
        obtain ⟨hrotate, hlistable, hfails⟩ := hstuck
        rw [h.writable hrotate hlistable] at hfails
        cases hfails
      · rw [if_neg hstuck]
        refine .inl ⟨c, user, ⟨hpresents, hunlisted, hfound, fun hrotate hlistable => ?_⟩, rfl, ?_⟩
        · exact eq_false_of_ne_true fun hfails => hstuck ⟨hrotate, hlistable, hfails⟩
        · unfold spent
          dsimp only
          split
          · exact seenAs_entered_congr hseen c
          · exact hseen

theorem Renews.unique {c' : Claims} {user user' : User}
    (h : Renews settings m fails token c user) (h' : Renews settings m fails token c' user') :
    c = c' ∧ user = user' := by
  have hc : c = c' := Except.ok.inj (h.presents.verify.symm.trans h'.presents.verify)
  obtain ⟨id, hid, hfound⟩ := h.found
  obtain ⟨id', hid', hfound'⟩ := h'.found
  subst hc
  rw [hid] at hid'
  cases hid'
  rw [hfound] at hfound'
  exact ⟨rfl, Option.some.inj (Except.ok.inj hfound')⟩

/-- Where the new tokens expire in the supported years, whoever renews is given a pair. -/
theorem refresh_of_renews (hcalendar : inCalendar settings m.around.clock = true) {user : User}
    (h : Renews settings m fails token c user) :
    ∃ p, (m.state.refresh settings (m.failing fails) token).1 = .ok p ∧
      NamesUser settings p user.id ∧
      Store.SeenAs m.uptime (m.state.refresh settings (m.failing fails) token).2.store
        (m.spent settings c) := by
  rcases redeem_cases settings m fails token with ⟨c', user', h', hanswer, hseen⟩ | ⟨hnone, -⟩
  · obtain ⟨rfl, rfl⟩ := h.unique h'
    have hrefresh := State.refresh_of_redeem_ok hanswer
    obtain ⟨p, hp⟩ : ∃ p, (m.state.refresh settings (m.failing fails) token).1 = .ok p := by
      rw [hrefresh]
      exact State.exists_issuePair_eq_ok user.id hcalendar
    refine ⟨p, hp, ?_, ?_⟩
    · rw [hrefresh] at hp
      exact State.namesUser_issuePair hp
    · rw [State.store_refresh, State.store_run]
      exact hseen
  · exact absurd h (hnone c user)

theorem refresh_of_not_renews (h : ∀ c user, ¬Renews settings m fails token c user) :
    (∃ e, (m.state.refresh settings (m.failing fails) token).1 = .error e) ∧
      Store.SeenAs m.uptime (m.state.refresh settings (m.failing fails) token).2.store
        m.state.store := by
  rcases redeem_cases settings m fails token with ⟨c, user, hrenews, -⟩ | ⟨-, ⟨e, he⟩, hseen⟩
  · exact absurd hrenews (h c user)
  · rw [State.store_refresh, State.store_run, State.refresh_of_redeem_error he]
    exact ⟨⟨_, rfl⟩, hseen⟩

/-- A token is exchanged exactly if it renews. The new tokens are then made out to the user of the
old one, whose own entry is all that an exchange may leave behind; and one that is refused leaves
nothing. -/
theorem refresh_outcome (settings : Settings) (m : Moment) (fails : Operation → String → Bool)
    (token : String) (hcalendar : inCalendar settings m.around.clock = true) :
    let result := m.state.refresh settings (m.failing fails) token
    ((∃ p, result.1 = .ok p) ↔ ∃ c user, Renews settings m fails token c user) ∧
    (∀ p c user, result.1 = .ok p → Renews settings m fails token c user →
      NamesUser settings p user.id ∧
      (m.around.directory.Keyed → c.userId = .ok user.id) ∧
      Store.SeenAs m.uptime result.2.store (m.spent settings c)) ∧
    ∀ e, result.1 = .error e → Store.SeenAs m.uptime result.2.store m.state.store := by
  dsimp only
  refine ⟨⟨?renews, ?exchanged⟩, ?granted, ?refused⟩
  case renews =>
    rintro ⟨p, hp⟩
    by_contra hnone
    have hnone : ∀ c user, ¬Renews settings m fails token c user := by simpa using hnone
    obtain ⟨⟨e, he⟩, -⟩ := refresh_of_not_renews hnone
    rw [he] at hp
    cases hp
  case exchanged =>
    rintro ⟨c, user, h⟩
    obtain ⟨p, hp, -⟩ := refresh_of_renews hcalendar h
    exact ⟨p, hp⟩
  case granted =>
    intro p c user hp h
    obtain ⟨p', hp', hnames, hseen⟩ := refresh_of_renews hcalendar h
    obtain rfl : p' = p := Except.ok.inj (hp'.symm.trans hp)
    refine ⟨hnames, fun hkeyed => ?_, hseen⟩
    obtain ⟨id, hid, hfound⟩ := h.found
    rw [hkeyed id user hfound, hid]
  case refused =>
    intro e he
    apply (refresh_of_not_renews _).2
    intro c user h
    obtain ⟨p, hp, -⟩ := refresh_of_renews hcalendar h
    rw [hp] at he
    cases he

end Moment

end

/-! ## Exchanges by the sample user -/

namespace Sample

theorem unlisted_start {fails : Operation → String → Bool} {c : Claims}
    (hfails : fails .contains (Key.revoked c.jti).text = false) :
    start.Unlisted fails start.state.store c :=
  fun _ => ⟨hfails, Store.live?_empty⟩

theorem found_start {c : Claims} (h : c.subject = user.id.text) :
    ∃ id, c.userId = .ok id ∧ start.around.directory.byId id = .ok (some user) := by
  refine ⟨user.id, ?_, by decide⟩
  rw [Claims.userId, h, UserId.parse_text]
  rfl

theorem presents_refresh :
    Presents settings start.around.clock .refresh (token .refresh) (claims .refresh) :=
  presents_token_iff.mpr rfl

/-- A store in which nothing can be set. -/
def cannotSet (operation : Operation) (_ : String) : Bool := operation = .setFlag

theorem exchange_with_fault :
    inCalendar settings start.around.clock = true ∧
      (∃ p, (start.state.refresh settings (start.failing fun _ _ => false) (token .refresh)).1 =
        .ok p ∧ NamesUser settings p user.id) ∧
      Store.SeenAs start.uptime
        (start.state.refresh settings (start.failing fun _ _ => false) (token .refresh)).2.store
        (entered clock .empty (claims .refresh)) ∧
      ¬(∃ p, (start.state.refresh settings (start.failing cannotSet) (token .refresh)).1 =
        .ok p) ∧
      (claims .refresh).Listable clock := by
  have hcalendar : inCalendar settings start.around.clock = true := by decide
  have hrenews : Moment.Renews settings start (fun _ _ => false) (token .refresh) (claims .refresh)
      user := ⟨presents_refresh, unlisted_start rfl, found_start rfl, fun _ _ => rfl⟩
  obtain ⟨hsound, hgranted, -⟩ :=
    Moment.refresh_outcome settings start (fun _ _ => false) (token .refresh) hcalendar
  obtain ⟨hfaulty, -, -⟩ :=
    Moment.refresh_outcome settings start cannotSet (token .refresh) hcalendar
  obtain ⟨p, hp⟩ := hsound.mpr ⟨_, _, hrenews⟩
  obtain ⟨hnames, -, hseen⟩ := hgranted p _ _ hp hrenews
  have hlistable : (claims .refresh).Listable clock := by decide
  refine ⟨hcalendar, ⟨p, hp, hnames⟩, hseen, ?_, hlistable⟩
  rw [hfaulty]
  rintro ⟨c, u, h⟩
  obtain rfl := presents_token_iff.mp h.presents
  cases h.writable rfl hlistable

/-- A refresh token that expires long after the supported years. -/
def farClaims : Claims :=
  ⟨user.id.text, "far", 1700000000, 10000000000000, Token.Config.defaultIssuer, .refresh⟩

def farToken : String := .ofList (Token.signed (settings.tokens.secret .refresh) farClaims)

theorem presents_farToken : Presents settings start.around.clock .refresh farToken farClaims := by
  have hlength : (Token.encodeJson farClaims.toJson).length + 81 ≤ maxTokenLength := by
    rw [Token.length_encodeJson]
    decide
  rw [← verified_eq_ok_iff_presents, verified_eq_ok_iff]
  exact ⟨carried_signed hlength (by decide) rfl rfl, by decide⟩

/-- Such a token is exchanged under rotation without being entered, although it has not expired. -/
theorem farToken_exchanged_unlisted :
    settings.rotate = true ∧ farClaims.jti ≠ "" ∧
      start.around.clock.wallNanos < farClaims.expires.toInt * nanosPerSecond ∧
      (∃ p, (start.state.refresh settings (start.failing fun _ _ => false) farToken).1 = .ok p) ∧
      (start.state.refresh settings (start.failing fun _ _ => false) farToken).2.store.live?
        start.uptime (Key.revoked farClaims.jti).text = none := by
  have hrenews : Moment.Renews settings start (fun _ _ => false) farToken farClaims user :=
    ⟨presents_farToken, unlisted_start rfl, found_start rfl, fun _ _ => rfl⟩
  obtain ⟨p, hp, -, hseen⟩ := Moment.refresh_of_renews (by decide) hrenews
  have hnot : ¬farClaims.Listable clock := by decide
  have hspent : start.spent settings farClaims = .empty := (if_pos rfl).trans (if_neg hnot)
  refine ⟨rfl, by decide, by decide, ⟨p, hp⟩, ?_⟩
  rw [hseen _ (Nat.le_refl _), hspent, Store.live?_empty]

end Sample

end Service

end Gatehouse
