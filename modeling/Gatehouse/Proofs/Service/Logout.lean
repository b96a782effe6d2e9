import Gatehouse.Proofs.Service.Finality

/-! What a logout does, to the word: its answer, the entries that it makes, and that making them
once more, at whatever later time, changes nothing. -/
namespace Gatehouse.Service

open Counter (Action Key Operation Store)
open Token (Claims)

section

variable {settings : Settings} {m : Moment} {jti : String} {clock : Clock} {later : Uptime}

/-! ## Entries -/

theorem live?_foldl_entered_of_ne {claims : List Claims} (store : Store)
    (h : ∀ c ∈ claims, c.Listable clock → c.jti ≠ jti) :
    (claims.foldl (entered clock) store).live? later (Key.revoked jti).text =
      store.live? later (Key.revoked jti).text := by
  induction claims generalizing store with
  | nil => rfl
  | cons c claims ih =>
    rw [List.foldl_cons, ih _ fun d hd => h d (List.mem_cons_of_mem _ hd), live?_entered]
    apply if_neg
    rintro ⟨hlistable, hkey⟩
    exact h c List.mem_cons_self hlistable (by simpa using hkey)

/-- Whether the store already shows the entry that revoking the claims would make. -/
def HasEntry (clock : Clock) (store : Store) (c : Claims) : Prop :=
  c.Listable clock → store.Shows clock.uptime (Key.revoked c.jti).text (some (entry clock c))

theorem seenAs_entered {store : Store} {c : Claims} (h : HasEntry clock store c) :
    Store.SeenAs clock.uptime (entered clock store c) store := by
  intro later hlater key
  rw [live?_entered]
  split
  · rename_i hentered
    obtain ⟨hlistable, rfl⟩ := hentered
    exact (h hlistable later hlater).symm
  · rfl

theorem HasEntry.congr {s t : Store} {c : Claims} (h : HasEntry clock t c)
    (hsame : Store.SeenAs clock.uptime s t) : HasEntry clock s c :=
  fun hlistable => (h hlistable).congr fun later hlater => hsame later hlater _

theorem seenAs_foldl_entered {store : Store} {claims : List Claims}
    (h : ∀ c ∈ claims, HasEntry clock store c) :
    Store.SeenAs clock.uptime (claims.foldl (entered clock) store) store := by
  induction claims generalizing store with
  | nil => exact .refl store
  | cons c claims ih =>
    have hc : Store.SeenAs clock.uptime (entered clock store c) store :=
      seenAs_entered (h c List.mem_cons_self)
    apply Store.SeenAs.trans _ hc
    exact ih fun d hd => (h d (List.mem_cons_of_mem _ hd)).congr hc

/-- An entry for claims that come last among those of their id. -/
theorem hasEntry_foldl_entered {c : Claims} {claims : List Claims} (store : Store)
    (h : ∀ d ∈ claims, d.Listable clock → d.jti ≠ c.jti) :
    HasEntry clock ((c :: claims).foldl (entered clock) store) c := by
  intro hlistable later _
  rw [List.foldl_cons, live?_foldl_entered_of_ne _ h, live?_entered]
  exact if_pos ⟨hlistable, rfl⟩

namespace Moment

/-- Whether no event of a run writes the entry of an id; the empty id has none. -/
def LeavesEntry (settings : Settings) (m : Moment) (jti : String) (events : List Event) : Prop :=
  ∀ r ∈ m.revocations settings events, r.jti = jti → jti = ""

theorem mem_revokes_of_listable {e : Event} {c : Claims} (h : c ∈ m.handedIn settings e)
    (hlistable : c.Listable m.around.clock) : c ∈ m.revokes settings e := by
  apply List.mem_filter.mpr
  exact ⟨h, decide_eq_true ((Claims.remainingLifetime_pos_iff m.started).mpr hlistable.2)⟩

theorem live?_after {events : List Event} (h : m.LeavesEntry settings jti events)
    (hlater : (m.after settings events).uptime ≤ later) :
    (m.after settings events).state.store.live? later (Key.revoked jti).text =
      m.state.store.live? later (Key.revoked jti).text := by
  induction events generalizing m with
  | nil => rfl
  | cons e events ih =>
    have hrest : (m.step settings e).LeavesEntry settings jti events :=
      fun r hr => h r (List.mem_append_right _ hr)
    have hstep : (m.step settings e).uptime ≤ later :=
      Nat.le_trans (uptime_le_after settings _ events) hlater
    rw [after_cons, ih hrest hlater, live?_step e hstep]
    apply live?_foldl_entered_of_ne
    rintro c hc hlistable rfl
    exact hlistable.1 (h c (List.mem_append_left _ (mem_revokes_of_listable hc hlistable)) rfl)

/-! ## The same logout once more -/

namespace Precedes

variable {later : Moment} {c : Claims} {access : Claims} {refresh : String}

/-- What can be revoked later could be revoked before. -/
theorem listable (h : m.Precedes later) (hc : c.Listable later.around.clock) :
    c.Listable m.around.clock :=
  ⟨hc.1, hc.2.1, Int.lt_of_le_of_lt h.wallNanos_le hc.2.2⟩

theorem entry_eq (h : m.Precedes later) (c : Claims) :
    entry later.around.clock c = entry m.around.clock c := by
  unfold entry Clock.uptimeAt
  rw [h.start]

/-- A token that is verified later was verified before. -/
theorem verified (h : m.Precedes later) {kind : Token.Kind} {token : String}
    (hc : Service.verified settings later.around kind token = .ok c) :
    Service.verified settings m.around kind token = .ok c := by
  rw [verified_eq_ok_iff] at hc ⊢
  refine ⟨hc.1, Int.le_trans ?_ hc.2⟩
  exact Int.ediv_le_ediv (by decide) h.wallNanos_le

theorem mem_handedIn (h : m.Precedes later)
    (hc : c ∈ later.handedIn settings (.logout access refresh)) :
    c ∈ m.handedIn settings (.logout access refresh) := by
  rw [mem_handedIn_logout] at hc ⊢
  obtain ⟨hkind, rfl | hpartner⟩ := hc
  · exact ⟨hkind, .inl rfl⟩
  · rw [partner_eq_some_iff] at hpartner
    refine ⟨hkind, .inr ?_⟩
    rw [partner_eq_some_iff]
    exact ⟨h.verified hpartner.1, hpartner.2⟩

theorem hasEntry (h : m.Precedes later) {store : Store}
    (hc : HasEntry m.around.clock store c)
    (hsame : ∀ last, later.uptime ≤ last → later.state.store.live? last (Key.revoked c.jti).text =
      store.live? last (Key.revoked c.jti).text) :
    HasEntry later.around.clock later.state.store c := by
  intro hlistable
  rw [h.entry_eq]
  exact ((hc (h.listable hlistable)).of_le h.uptime).congr hsame

end Precedes

theorem hasEntry_of_handedIn {access c : Claims} {refresh : String}
    (hdistinct : ∀ d, m.partner settings access refresh = some d → d.jti ≠ access.jti)
    (hc : c ∈ m.handedIn settings (.logout access refresh)) :
    HasEntry m.around.clock (m.step settings (.logout access refresh)).state.store c := by
  obtain ⟨hkind, hc⟩ := mem_handedIn_logout.mp hc
  rw [store_step_logout, handedIn_logout hkind]
  rcases hc with rfl | hpartner
  · apply hasEntry_foldl_entered
    intro d hd _
    exact hdistinct d (Option.mem_toList.mp hd)
  · have hlast : ∀ d ∈ ([] : List Claims), d.Listable m.around.clock → d.jti ≠ c.jti := by simp
    rw [hpartner]
    exact hasEntry_foldl_entered (entered m.around.clock m.state.store access) hlast

/-- A logout that is repeated after any events that leave its entries alone goes unnoticed. -/
theorem seenAs_repeated {access : Claims} {refresh : String} {between : List Event}
    (haccess : (m.step settings (.logout access refresh)).LeavesEntry settings access.jti between)
    (hpartner : ∀ d, m.partner settings access refresh = some d → d.jti ≠ access.jti ∧
      (m.step settings (.logout access refresh)).LeavesEntry settings d.jti between) :
    let later := (m.step settings (.logout access refresh)).after settings between
    Store.SeenAs later.uptime (later.step settings (.logout access refresh)).state.store
      later.state.store := by
  intro later
  have hprecedes : m.Precedes later :=
    precedes_after settings m (.logout access refresh :: between)
  rw [store_step_logout]
  apply seenAs_foldl_entered
  intro c hc
  have hfirst := hprecedes.mem_handedIn hc
  apply hprecedes.hasEntry (hasEntry_of_handedIn (fun d hd => (hpartner d hd).1) hfirst)
  intro last hlast
  apply live?_after _ hlast
  obtain ⟨-, rfl | hd⟩ := mem_handedIn_logout.mp hfirst
  · exact haccess
  · exact (hpartner c hd).2

/-! ## The outcome of a logout -/

/-- What a logout answers depends on the tokens alone, whatever the store holds and does. -/
theorem answer_logout (around : Surroundings) (context : Counter.Context) (access : Claims)
    (refresh : String) (store : Store) :
    ((logout settings around access refresh).run context store).1 =
      if access.kind = .access then
        match verified settings around .refresh refresh with
        | .error _ => .ok ()
        | .ok d => if d.subject = access.subject then .ok () else .error (.token .mismatch)
      else .error .tokenInvalid := by
  rw [run_logout]
  by_cases hkind : access.kind = .access
  · simp only [if_pos hkind]
    cases verified settings around .refresh refresh with
    | error e => rfl
    | ok d =>
      by_cases hsubject : d.subject = access.subject
      · simp only [if_pos hsubject]
      · simp only [if_neg hsubject]
  · simp only [if_neg hkind]

section

variable {access : Claims} {refresh : String}

theorem answer_logout_eq_mismatch_iff (hkind : access.kind = .access) (store : Store) :
    ((logout settings m.around access refresh).run m.around.context store).1 =
        .error (.token .mismatch) ↔
      ∃ d, Presents settings m.around.clock .refresh refresh d ∧ d.subject ≠ access.subject := by
  simp only [answer_logout, if_pos hkind, ← verified_eq_ok_iff_presents]
  cases verified settings m.around .refresh refresh with
  | error e => simp
  | ok d =>
    by_cases hsubject : d.subject = access.subject
    · simp [hsubject]
    · simp [hsubject]

theorem answer_logout_of_ne_mismatch (hkind : access.kind = .access) {store : Store}
    (h : ((logout settings m.around access refresh).run m.around.context store).1 ≠
      .error (.token .mismatch)) :
    ((logout settings m.around access refresh).run m.around.context store).1 = .ok () := by
  rw [answer_logout, if_pos hkind] at h ⊢
  split
  · rfl
  · rename_i d hd
    simp only [hd] at h
    split
    · rfl
    · rename_i hsubject
      exact absurd (if_neg hsubject) h

theorem partner_eq_some_iff_presents {d : Claims} :
    m.partner settings access refresh = some d ↔
      Presents settings m.around.clock .refresh refresh d ∧ d.subject = access.subject := by
  rw [partner_eq_some_iff, verified_eq_ok_iff_presents]

theorem store_logout_of_some (hkind : access.kind = .access) {d : Claims}
    (hd : m.partner settings access refresh = some d) (store : Store) :
    ((logout settings m.around access refresh).run m.around.context store).2 =
      entered m.around.clock (entered m.around.clock store access) d := by
  rw [store_logout, handedIn_logout hkind, hd]
  rfl

theorem store_logout_of_none (hkind : access.kind = .access)
    (hnone : m.partner settings access refresh = none) (store : Store) :
    ((logout settings m.around access refresh).run m.around.context store).2 =
      entered m.around.clock store access := by
  rw [store_logout, handedIn_logout hkind, hnone]
  rfl

end

/-- A logout with the claims of anything but an access token is refused and does nothing. With those
of one, it enters that token, and with it the refresh token that is presented for the same subject;
a refresh token of another subject is reported, and that is all. No failure of the store shows in
the answer, and the same logout at any later time does nothing more. -/
theorem logout_effect (settings : Settings) (m : Moment) (access : Claims) (refresh : String) :
    let presents := Presents settings m.around.clock .refresh refresh
    let result := (logout settings m.around access refresh).run m.around.context m.state.store
    let ended := entered m.around.clock m.state.store access
    (access.kind ≠ .access → result = (.error .tokenInvalid, m.state.store)) ∧
    (access.kind = .access →
      (result.1 = .error (.token .mismatch) ↔ ∃ d, presents d ∧ d.subject ≠ access.subject) ∧
      (result.1 ≠ .error (.token .mismatch) → result.1 = .ok ()) ∧
      (∀ d, presents d → d.subject = access.subject →
        result.2 = entered m.around.clock ended d) ∧
      ((∀ d, presents d → d.subject ≠ access.subject) → result.2 = ended)) ∧
    (∀ fails store, ((logout settings (m.failing fails) access refresh).run
      (m.failing fails).context store).1 = result.1) ∧
    ∀ between : List Event,
      let first := m.step settings (.logout access refresh)
      let later := first.after settings between
      first.LeavesEntry settings access.jti between →
      (∀ d, presents d → d.subject = access.subject →
        d.jti ≠ access.jti ∧ first.LeavesEntry settings d.jti between) →
      Store.SeenAs later.uptime (later.step settings (.logout access refresh)).state.store
        later.state.store := by
  intro presents result ended
  refine ⟨fun hkind => ?refused, fun hkind => ⟨?mismatch, ?ok, fun d hd hsubject => ?both,
    fun hnone => ?one⟩, fun fails store => ?failing, fun between => ?again⟩
  case refused => exact (run_logout settings m.around _ access refresh _).trans (if_neg hkind)
  case mismatch => exact answer_logout_eq_mismatch_iff hkind m.state.store
  case ok => exact answer_logout_of_ne_mismatch hkind
  case both =>
    exact store_logout_of_some hkind (partner_eq_some_iff_presents.mpr ⟨hd, hsubject⟩) _
  case one =>
    apply store_logout_of_none hkind
    apply Option.eq_none_iff_forall_ne_some.mpr
    intro d hd
    obtain ⟨hpresents, hsubject⟩ := partner_eq_some_iff_presents.mp hd
    exact hnone d hpresents hsubject
  case failing =>
    have hanswer : result.1 = _ := answer_logout m.around _ access refresh m.state.store
    rw [hanswer, answer_logout, verified_failing]
  case again =>
    dsimp only
    intro haccess hother
    apply seenAs_repeated haccess
    intro d hd
    obtain ⟨hpresents, hsubject⟩ := partner_eq_some_iff_presents.mp hd
    exact hother d hpresents hsubject

end Moment

end

/-! ## A logout of the sample user -/

namespace Sample

theorem presents_token_iff {kind : Token.Kind} {d : Claims} :
    Presents settings start.around.clock kind (token kind) d ↔ d = claims kind := by
  rw [← verified_eq_ok_iff_presents, verified_token]
  exact ⟨fun h => (Except.ok.inj h).symm, fun h => congrArg Except.ok h.symm⟩

/-- A logout with both tokens enters both, and once more a quarter of a second later nothing. -/
theorem logout_with_both :
    let result := (logout settings start.around (claims .access) (token .refresh)).run
      start.around.context start.state.store
    let first := start.step settings (.logout (claims .access) (token .refresh))
    let later := first.after settings [.advance quarter]
    (claims .access).Listable clock ∧ (claims .refresh).Listable clock ∧
      result.1 = .ok () ∧
      result.2 = entered clock (entered clock .empty (claims .access)) (claims .refresh) ∧
      Store.SeenAs later.uptime
        (later.step settings (.logout (claims .access) (token .refresh))).state.store
        later.state.store := by
  dsimp only
  have hleaves (jti : String) : (start.step settings (.logout (claims .access)
      (token .refresh))).LeavesEntry settings jti [.advance quarter] := by
    intro r hr
    cases hr
  obtain ⟨-, heffect, -, hagain⟩ :=
    Moment.logout_effect settings start (claims .access) (token .refresh)
  obtain ⟨hmismatch, hok, hboth, -⟩ := heffect rfl
  have hsame : ¬∃ d, Presents settings start.around.clock .refresh (token .refresh) d ∧
      d.subject ≠ (claims .access).subject := by
    rintro ⟨d, hd, hsubject⟩
    rw [presents_token_iff.mp hd] at hsubject
    exact hsubject rfl
  refine ⟨by decide, by decide, hok (mt hmismatch.mp hsame),
    hboth _ (presents_token_iff.mpr rfl) rfl, ?_⟩
  have hother : ∀ d, Presents settings start.around.clock .refresh (token .refresh) d →
      d.subject = (claims .access).subject →
      d.jti ≠ (claims .access).jti ∧ (start.step settings (.logout (claims .access)
        (token .refresh))).LeavesEntry settings d.jti [.advance quarter] := by
    intro d hd _
    rw [presents_token_iff.mp hd]
    exact ⟨by decide, hleaves _⟩
  exact hagain [.advance quarter] (hleaves _) hother

end Sample

end Gatehouse.Service
