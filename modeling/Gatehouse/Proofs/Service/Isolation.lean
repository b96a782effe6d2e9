import Gatehouse.Proofs.Service.Party
import Gatehouse.Proofs.Service.Visit

/-! Isolation between callers. A party hears the answers that are about its names, and visits that
do not name it can be put into a run or taken from it without the party hearing anything else. A
login that pairs a name of the party with another is the one way from outside to the party's
counters: whether it is counted as a failure depends on the lock or block of the other name as well.
Two scenes look the same to the party if its keys show the same in both; visits of others go
unnoticed, a visit that names the party keeps two such scenes alike, and so do runs. -/
namespace Gatehouse.Service

open Counter (Action Agree Ends Key Store)
open Counter.Action (Alike Spares)

/-- An answer with only a part of the guard's reply. -/
def Answer.part (part : Guard.Reply → Guard.Reply) : Answer → Answer
  | .guard result => .guard (result.map part)
  | a => a

namespace Visit

variable (settings : Settings) (P : Party)

/-- Whether a visit names a party, or is everyone's concern. -/
def touches : Visit → Bool
  | login request origin => P.user (loginName request) || P.origin origin
  | refresh token => P.names settings .refresh token
  | authenticate token => P.names settings .access token
  | logout access token => P.jti access.jti || P.names settings Token.Kind.refresh token
  | guard act => act.touches P
  | revoke jti _ => P.jti jti
  | isRevoked jti => P.jti jti
  | purge => false
  | shutdown | advance _ | change _ _ _ => true

/-- Whether a visit is a login that pairs a name of the party with one that is not. -/
def straddles : Visit → Bool
  | login request origin => P.user (loginName request) != P.origin origin
  | _ => false

/-- The part of an answer that is about the party. -/
def heard (v : Visit) (a : Answer) : Option Answer :=
  match v with
  | login request origin =>
    if P.user (loginName request) && P.origin origin then some a else none
  | guard act => if act.touches P then some (a.part (act.heard P)) else none
  | v => if v.touches settings P then some a else none

end Visit

namespace Scene

variable (settings : Settings) (P : Party)

/-- What a run tells a party. -/
def hear (s : Scene) : List Visit → List Answer
  | [] => []
  | v :: rest =>
    (v.heard settings P (s.visit settings v).1).toList ++ hear (s.visit settings v).2 rest

/-- What the logins of a run that pair a name of the party with another leave behind. -/
def bookings (s : Scene) : List Visit → List (Option Bookkeeping)
  | [] => []
  | v :: rest =>
    (if v.straddles P then [s.booked settings v] else []) ++
      bookings (s.visit settings v).2 rest

end Scene

section

variable {settings : Settings} {P : Party} {around : Surroundings} {s t : Scene}
  {request : LoginRequest} {origin : String}

/-! ## Scenes that a party cannot tell apart -/

/-- Two scenes with the same surroundings and the same idle pool, in which the party's keys show the
same. -/
structure Resembles (P : Party) (s t : Scene) : Prop where
  around : s.around = t.around
  pool : s.state.pool = t.state.pool
  idle : s.state.pool.queued = []
  stores : Agree P.owns s.around.clock.uptime s.state.store t.state.store

theorem resembles_refl (hidle : s.state.pool.queued = []) : Resembles P s s :=
  ⟨rfl, rfl, hidle, .refl _⟩

theorem Resembles.symm (h : Resembles P s t) : Resembles P t s where
  around := h.around.symm
  pool := h.pool.symm
  idle := h.pool ▸ h.idle
  stores := h.around ▸ h.stores.symm

theorem Resembles.trans {u : Scene} (h : Resembles P s t) (h' : Resembles P t u) :
    Resembles P s u where
  around := h.around.trans h'.around
  pool := h.pool.trans h'.pool
  idle := h.idle
  stores := h.stores.trans (h.around ▸ h'.stores)

/-- A state with the same pool in which the party's keys show the same goes unnoticed. -/
theorem resembles_of_state (hidle : s.state.pool.queued = []) {state : State}
    (hpool : state.pool = s.state.pool)
    (hstore : Agree P.owns s.around.clock.uptime state.store s.state.store) :
    Resembles P { s with state } s :=
  ⟨rfl, hpool, hpool ▸ hidle, hstore⟩

/-- A program that spares the party's keys goes unnoticed. -/
theorem resembles_of_spares {α : Type} {v : Visit} {a : Action α} {say : Except Error α → Answer}
    (hidle : s.state.pool.queued = []) (hreceive : s.receive settings v = s.perform a say)
    (ha : ∀ key, P.owns key = true → Spares key.text a) :
    Resembles P (s.visit settings v).2 s := by
  rw [visit_perform hreceive hidle]
  exact resembles_of_state hidle rfl (Action.agree_of_spares ha s.around.context s.state.store)

/-- States with the old pools that agree on the party's keys keep the resemblance. -/
theorem Resembles.update (h : Resembles P s t) {state state' : State}
    (hpool : state.pool = s.state.pool) (hpool' : state'.pool = t.state.pool)
    (hstores : Agree P.owns s.around.clock.uptime state.store state'.store) :
    Resembles P { s with state } { t with state := state' } :=
  ⟨h.around, (hpool.trans h.pool).trans hpool'.symm, hpool ▸ h.idle, hstores⟩

/-- Programs that are alike keep the resemblance. -/
theorem Resembles.perform {α : Type} {a : Action α} {R : α → α → Prop}
    {say : Except Error α → Answer} (h : Resembles P s t) (ha : Alike P.owns R a a) :
    Ends R (s.state.run s.around a).1 (t.state.run t.around a).1 ∧
      Resembles P (s.perform a say).2 (t.perform a say).2 := by
  obtain ⟨state, around⟩ := s
  obtain ⟨state', around'⟩ := t
  obtain rfl : around = around' := h.around
  obtain ⟨hends, hstores⟩ := ha around.context state.store state'.store h.stores
  exact ⟨hends, h.update rfl rfl hstores⟩

/-! ## The change that a login leaves behind -/

theorem agree_settled_of_foreign {state : State} {job : Option Bookkeeping} {username : String}
    (hjob : ∀ j, job = some j → j = .failure username origin ∨ j = .success username origin)
    (huser : P.user username = false) (horigin : P.origin origin = false) :
    Agree P.owns around.clock.uptime (state.settled settings around job) state.store := by
  cases job with
  | none => exact .refl _
  | some j =>
    unfold State.settled
    dsimp only
    split
    · exact .refl _
    · have hspares (key : Key) (hkey : P.owns key = true) :
          Spares key.text (j.run settings.guard) :=
        spares_job_of_foreign (hjob j rfl) huser horigin key hkey
      exact Action.agree_of_spares hspares around.context state.store

theorem agree_settled {state state' : State} (hpool : state.pool = state'.pool)
    (hstores : Agree P.owns around.clock.uptime state.store state'.store)
    (job : Option Bookkeeping) :
    Agree P.owns around.clock.uptime (state.settled settings around job)
      (state'.settled settings around job) := by
  cases job with
  | none => exact hstores
  | some job =>
    unfold State.settled
    dsimp only
    rw [hpool]
    split
    · exact hstores
    · exact (alike_job settings.guard job around.context state.store state'.store hstores).2

theorem agree_attempt {store : Store} :
    Agree P.owns around.clock.uptime
      ((attempt settings around request origin).run around.context store).2 store :=
  Action.agree_of_spares (fun _ _ => spares_attempt) around.context store

/-! ## One visit -/

theorem heard_of_foreign {v : Visit} (hv : v.touches settings P = false) (a : Answer) :
    v.heard settings P a = none := by
  have hno : ¬v.touches settings P = true := by simp [hv]
  cases v with
  | login request origin =>
    obtain ⟨huser, -⟩ := Bool.or_eq_false_iff.mp hv
    simp [Visit.heard, huser]
  | guard act => exact if_neg hno
  | purge => rfl
  | _ => simp only [Visit.heard, if_neg hno]

theorem straddles_of_foreign {v : Visit} (hv : v.touches settings P = false) :
    v.straddles P = false := by
  cases v with
  | login request origin =>
    obtain ⟨huser, horigin⟩ := Bool.or_eq_false_iff.mp hv
    simp [Visit.straddles, huser, horigin]
  | _ => rfl

/-- A visit that does not name the party is not noticed by it. -/
theorem resembles_of_foreign (hidle : s.state.pool.queued = []) {v : Visit}
    (hv : v.touches settings P = false) : Resembles P (s.visit settings v).2 s := by
  cases v with
  | login request origin =>
    obtain ⟨huser, horigin⟩ := Bool.or_eq_false_iff.mp hv
    rcases hread : (attempt settings s.around request origin).run s.around.context s.state.store
      with ⟨answer, store⟩
    obtain ⟨-, drawn, hvisit⟩ := visit_login hidle hread
    have hstore : Agree P.owns s.around.clock.uptime
        ((attempt settings s.around request origin).run s.around.context s.state.store).2
        s.state.store := agree_attempt
    rw [hread] at hstore
    rw [hvisit]
    refine resembles_of_state hidle rfl (.trans ?_ hstore)
    exact agree_settled_of_foreign (fun job hjob => job_attempt hread hjob) huser horigin
  | refresh token =>
    have hpool : (s.state.refresh settings s.around token).2.pool = s.state.pool :=
      State.pool_refresh s.state token
    have hstore : Agree P.owns s.around.clock.uptime
        (s.state.refresh settings s.around token).2.store s.state.store := by
      rw [State.store_refresh, State.store_run]
      exact Action.agree_of_spares (a := redeem settings s.around token)
        (spares_redeem_of_foreign hv) s.around.context s.state.store
    rw [visit_refresh hidle]
    exact resembles_of_state hidle hpool hstore
  | authenticate token =>
    exact resembles_of_spares hidle rfl fun _ _ => spares_accepted
  | logout access token =>
    obtain ⟨haccess, hrefresh⟩ := Bool.or_eq_false_iff.mp hv
    exact resembles_of_spares hidle rfl (spares_logout_of_foreign haccess hrefresh)
  | guard act =>
    exact resembles_of_spares hidle rfl (Guard.spares_action_of_foreign hv)
  | revoke jti lifetime =>
    exact resembles_of_spares hidle rfl (spares_revoke_of_foreign hv lifetime)
  | isRevoked jti =>
    exact resembles_of_spares hidle rfl fun key _ => spares_isRevoked jti key.text
  | purge =>
    rw [visit_of_idle (v := .purge) rfl hidle]
    exact ⟨rfl, rfl, hidle, Counter.agree_purge _⟩
  | shutdown => contradiction
  | advance span => contradiction
  | change directory verifier fails => contradiction

theorem Resembles.visit_perform {α : Type} {v : Visit} {a : Action α} {R : α → α → Prop}
    {say : Except Error α → Answer} (h : Resembles P s t)
    (hs : s.receive settings v = s.perform a say) (ht : t.receive settings v = t.perform a say)
    (ha : Alike P.owns R a a)
    (hsay : ∀ x y, Ends R x y → v.heard settings P (say x) = v.heard settings P (say y)) :
    v.heard settings P (s.visit settings v).1 = v.heard settings P (t.visit settings v).1 ∧
      Resembles P (s.visit settings v).2 (t.visit settings v).2 := by
  have hperform : _ ∧ Resembles P (s.perform a say).2 (t.perform a say).2 := h.perform ha
  obtain ⟨hends, hafter⟩ := hperform
  rw [Service.visit_perform hs h.idle, Service.visit_perform ht h.symm.idle]
  exact ⟨hsay _ _ hends, hafter⟩

theorem Resembles.visit_login (h : Resembles P s t)
    (hv : (Visit.login request origin).touches settings P = true)
    (hbooked : (Visit.login request origin).straddles P = true →
      s.booked settings (.login request origin) = t.booked settings (.login request origin)) :
    let v := Visit.login request origin
    v.heard settings P (s.visit settings v).1 = v.heard settings P (t.visit settings v).1 ∧
      Resembles P (s.visit settings v).2 (t.visit settings v).2 := by
  obtain ⟨state, around⟩ := s
  obtain ⟨state', around'⟩ := t
  obtain rfl : around = around' := h.around
  rcases hread : (attempt settings around request origin).run around.context state.store
    with ⟨answer, store⟩
  rcases hread' : (attempt settings around request origin).run around.context state'.store
    with ⟨answer', store'⟩
  obtain ⟨hanswer, drawn, hafter⟩ := Service.visit_login h.idle hread
  obtain ⟨hanswer', drawn', hafter'⟩ := Service.visit_login h.symm.idle hread'
  have hspared (s : State) : Agree P.owns around.clock.uptime
      ((attempt settings around request origin).run around.context s.store).2 s.store :=
    agree_attempt
  have hstores : Agree P.owns around.clock.uptime store store' := by
    have hfirst := (hspared state).trans (h.stores.trans (hspared state').symm)
    rw [hread, hread'] at hfirst
    exact hfirst
  -- Wholly within the party both attempts come out the same; otherwise nothing is heard.
  have hwithin (huser : P.user (loginName request) = true) (horigin : P.origin origin = true) :
      answer = answer' := by
    have halike : Alike P.owns Eq (attempt settings around request origin)
        (attempt settings around request origin) := alike_attempt huser horigin
    have hends := (halike around.context state.store state'.store h.stores).1
    rw [hread, hread'] at hends
    exact hends.eq
  have hjob : (answer.toOption.bind fun attempt => attempt.job) =
      answer'.toOption.bind fun attempt => attempt.job := by
    simp only [Scene.booked, hread, hread'] at hbooked
    cases huser : P.user (loginName request) <;> cases horigin : P.origin origin
    · simp [Visit.touches, huser, horigin] at hv
    · exact hbooked (by simp [Visit.straddles, huser, horigin])
    · exact hbooked (by simp [Visit.straddles, huser, horigin])
    · rw [hwithin huser horigin]
  intro v
  rw [hanswer, hanswer', hafter, hafter']
  refine ⟨?_, ?_⟩
  · cases huser : P.user (loginName request) <;> cases horigin : P.origin origin
    case true.true => rw [hwithin huser horigin]
    all_goals simp [v, Visit.heard, huser, horigin]
  · rw [hjob]
    have hsettled (job : Option Bookkeeping) : Agree P.owns around.clock.uptime
        (State.settled { state with store } settings around job)
        (State.settled { state' with store := store' } settings around job) := by
      refine agree_settled ?_ hstores job
      exact h.pool
    exact h.update rfl rfl (hsettled _)

theorem Resembles.visit_refresh (h : Resembles P s t) {token : String}
    (hv : (Visit.refresh token).touches settings P = true) :
    let v := Visit.refresh token
    v.heard settings P (s.visit settings v).1 = v.heard settings P (t.visit settings v).1 ∧
      Resembles P (s.visit settings v).2 (t.visit settings v).2 := by
  obtain ⟨state, around⟩ := s
  obtain ⟨state', around'⟩ := t
  obtain rfl : around = around' := h.around
  have halike : Alike P.owns Eq (redeem settings around token) (redeem settings around token) :=
    alike_redeem hv
  obtain ⟨hends, hstores⟩ := halike around.context state.store state'.store h.stores
  intro v
  rw [Service.visit_refresh h.idle, Service.visit_refresh h.symm.idle]
  refine ⟨?_, h.update (State.pool_refresh _ _) (State.pool_refresh _ _) ?_⟩
  · dsimp only
    rw [State.map_refresh, State.map_refresh, hends.eq]
  · rw [State.store_refresh, State.store_refresh, State.store_run, State.store_run]
    exact hstores

/-- A visit that names the party, or is everyone's concern, tells the party the same in scenes that
it cannot tell apart, and leaves such scenes, if a login that straddles the party's names leaves the
same change behind. -/
theorem Resembles.visit (h : Resembles P s t) {v : Visit} (hv : v.touches settings P = true)
    (hbooked : v.straddles P = true → s.booked settings v = t.booked settings v) :
    v.heard settings P (s.visit settings v).1 = v.heard settings P (t.visit settings v).1 ∧
      Resembles P (s.visit settings v).2 (t.visit settings v).2 := by
  obtain ⟨state, around⟩ := s
  obtain ⟨state', around'⟩ := t
  obtain rfl : around = around' := h.around
  cases v with
  | login request origin => exact h.visit_login hv hbooked
  | refresh token => exact h.visit_refresh hv
  | authenticate token =>
    exact h.visit_perform rfl rfl (alike_accepted hv) fun x y hxy => by rw [hxy.eq]
  | logout access token =>
    exact h.visit_perform rfl rfl (alike_logout access token) fun x y hxy => by rw [hxy.eq]
  | guard act =>
    refine h.visit_perform rfl rfl (Guard.alike_action hv) fun x y hxy => ?_
    simp only [Visit.heard, Answer.part, hxy.map_eq]
  | revoke jti lifetime =>
    exact h.visit_perform rfl rfl (alike_revoke jti lifetime) fun x y hxy => by rw [hxy.eq]
  | isRevoked jti =>
    exact h.visit_perform rfl rfl (alike_isRevoked hv) fun x y hxy => by rw [hxy.eq]
  | purge => contradiction
  | shutdown =>
    rw [visit_shutdown h.idle, visit_shutdown h.symm.idle]
    exact ⟨rfl, rfl, congrArg (fun pool => pool.close?.getD pool) h.pool,
      (queued_close _).trans h.idle, h.stores⟩
  | advance span =>
    rw [visit_of_idle (v := .advance span) rfl h.idle,
      visit_of_idle (v := .advance span) rfl h.symm.idle]
    exact ⟨rfl, rfl, h.pool, h.idle, h.stores.of_le (Nat.le_add_right _ _)⟩
  | change directory verifier fails =>
    rw [visit_of_idle (v := .change directory verifier fails) rfl h.idle,
      visit_of_idle (v := .change directory verifier fails) rfl h.symm.idle]
    exact ⟨rfl, rfl, h.pool, h.idle, h.stores⟩

/-! ## Whole runs -/

/-- Visits that do not name the party tell it nothing and leave a scene that looks the same. -/
theorem exists_after_foreign (hidle : s.state.pool.queued = []) {visits : List Visit}
    (hforeign : ∀ v ∈ visits, ¬v.touches settings P = true) :
    ∃ s', Resembles P s' s ∧ ∀ rest,
      s.hear settings P (visits ++ rest) = s'.hear settings P rest ∧
        s.bookings settings P (visits ++ rest) = s'.bookings settings P rest := by
  induction visits generalizing s with
  | nil => exact ⟨s, resembles_refl hidle, fun _ => ⟨rfl, rfl⟩⟩
  | cons v visits ih =>
    obtain ⟨hv, hvisits⟩ := List.forall_mem_cons.mp hforeign
    have hv := Bool.not_eq_true _ ▸ hv
    have hnext : Resembles P (s.visit settings v).2 s := resembles_of_foreign hidle hv
    obtain ⟨s', hlast, hrest⟩ := ih hnext.idle hvisits
    refine ⟨s', hlast.trans hnext, fun rest => ?_⟩
    rw [List.cons_append, Scene.hear, Scene.bookings, heard_of_foreign hv,
      if_neg (by simp [straddles_of_foreign hv])]
    exact hrest rest

theorem hear_of_foreign (hidle : s.state.pool.queued = []) {visits : List Visit}
    (hforeign : ∀ v ∈ visits, ¬v.touches settings P = true) : s.hear settings P visits = [] := by
  obtain ⟨s', -, hrest⟩ := exists_after_foreign hidle hforeign
  have hnil := (hrest []).1
  rwa [List.append_nil] at hnil

/-- Two runs with the same visits that concern the party, from scenes that it cannot tell apart. The
induction is on the visits of the first run; those of the second that do not concern the party are
passed over where the first has its next one that does. -/
theorem Resembles.hear (h : Resembles P s t) {left right : List Visit}
    (hsame : left.filter (·.touches settings P) = right.filter (·.touches settings P))
    (hbookings : s.bookings settings P left = t.bookings settings P right) :
    s.hear settings P left = t.hear settings P right := by
  induction left generalizing s t right with
  | nil =>
    have hforeign := List.filter_eq_nil_iff.mp hsame.symm
    exact (hear_of_foreign h.symm.idle hforeign).symm
  | cons v left ih =>
    cases hv : v.touches settings P with
    | false =>
      rw [List.filter_cons_of_neg (by simp [hv])] at hsame
      have hnext : Resembles P (s.visit settings v).2 s := resembles_of_foreign h.idle hv
      rw [Scene.bookings, if_neg (by simp [straddles_of_foreign hv])] at hbookings
      rw [Scene.hear, heard_of_foreign hv]
      exact ih (hnext.trans h) hsame hbookings
    | true =>
      rw [List.filter_cons_of_pos hv] at hsame
      obtain ⟨before, after, rfl, hbefore, -, hafter⟩ := List.filter_eq_cons_iff.mp hsame.symm
      obtain ⟨t', ht, hrest⟩ := exists_after_foreign h.symm.idle hbefore
      have hnow := h.trans ht.symm
      rw [(hrest _).2, Scene.bookings, Scene.bookings] at hbookings
      rw [(hrest _).1, Scene.hear, Scene.hear]
      by_cases hstraddles : v.straddles P = true
      · rw [if_pos hstraddles, if_pos hstraddles] at hbookings
        obtain ⟨hbooked, hbookings⟩ := List.cons.inj hbookings
        obtain ⟨hheard, hnext⟩ := hnow.visit hv fun _ => hbooked
        rw [hheard, ih hnext hafter.symm hbookings]
      · rw [if_neg hstraddles, if_neg hstraddles] at hbookings
        obtain ⟨hheard, hnext⟩ := hnow.visit hv fun hyes => absurd hyes hstraddles
        rw [hheard, ih hnext hafter.symm hbookings]

theorem bookings_eq_nil {visits : List Visit} (h : ∀ v ∈ visits, v.straddles P = false) :
    s.bookings settings P visits = [] := by
  induction visits generalizing s with
  | nil => rfl
  | cons v visits ih =>
    obtain ⟨hv, hvisits⟩ := List.forall_mem_cons.mp h
    rw [Scene.bookings, if_neg (by simp [hv]), ih hvisits]
    rfl

/-- If nobody logs in with a name of the party and another, visits of others make no difference. -/
theorem Resembles.hear_of_unpaired (h : Resembles P s t) {left right : List Visit}
    (hsame : left.filter (·.touches settings P) = right.filter (·.touches settings P))
    (hunpaired : ∀ v ∈ left, v.straddles P = false) :
    s.hear settings P left = t.hear settings P right := by
  refine h.hear hsame ?_
  rw [bookings_eq_nil hunpaired, bookings_eq_nil]
  intro v hv
  cases htouches : v.touches settings P with
  | false => exact straddles_of_foreign htouches
  | true =>
    have hleft : v ∈ left.filter (·.touches settings P) :=
      hsame ▸ List.mem_filter.mpr ⟨hv, htouches⟩
    exact hunpaired v (List.mem_filter.mp hleft).1

/-- Whatever visits are put into a run or taken from it that do not name a party, the party hears
the same, as long as the logins that pair a name of the party with another leave the same behind.
This rests on the keys of the counters: no two purposes or names share one. -/
theorem Scene.isolation (hidle : s.state.pool.queued = []) {left right : List Visit}
    (hsame : left.filter (·.touches settings P) = right.filter (·.touches settings P))
    (hbookings : s.bookings settings P left = s.bookings settings P right) :
    s.hear settings P left = s.hear settings P right ∧
      ∀ a b : Key, a.text = b.text → a = b :=
  ⟨(resembles_refl hidle).hear hsame hbookings, fun _ _ => Key.text_inj.mp⟩

end

/-! ## A guard that punishes at once -/

namespace Sample

/-- Alice at her own address, and every id of a token but one. -/
def home : Party := ⟨(· == "alice"), (· == origin), (· != "theirs")⟩

def elsewhere : String := "198.51.100.1"

def opening : Scene := ⟨.new strict, start.around⟩

/-- A wrong password from elsewhere locks Alice out at home too. -/
def quiet : List Visit :=
  [.login ⟨"alice", "battery staple"⟩ elsewhere, .guard (.isUserLocked "alice"),
    .guard (.originBlock origin), .isRevoked "hers", .login request origin]

/-- The same with visits in between whose names look like Alice's keys. -/
def busy : List Visit :=
  [.login ⟨"bob", "open sesame"⟩ "user:alice", .guard (.recordOriginFailure "ip:203.0.113.7"),
    .login ⟨"alice", "battery staple"⟩ elsewhere, .guard (.isUserLocked "alice"),
    .revoke "theirs" 60, .guard (.unlockUser "bob"), .guard (.originBlock origin), .purge,
    .isRevoked "hers", .isRevoked "theirs", .login request origin]

theorem quiet_like_busy :
    opening.state.pool.queued = [] ∧
      quiet.filter (·.touches strict home) = busy.filter (·.touches strict home) ∧
      opening.bookings strict home quiet = opening.bookings strict home busy ∧
      opening.hear strict home quiet = opening.hear strict home busy := by
  have hidle : opening.state.pool.queued = [] := rfl
  have hsame : quiet.filter (·.touches strict home) = busy.filter (·.touches strict home) := rfl
  have hbookings : opening.bookings strict home quiet = opening.bookings strict home busy := by
    decide +kernel
  obtain ⟨hheard, -⟩ := Scene.isolation hidle hsame hbookings
  exact ⟨hidle, hsame, hbookings, hheard⟩

/-- Alice signs in from elsewhere, and then at home. -/
def visits : List Visit :=
  [.login request elsewhere, .guard (.isUserLocked "alice"), .login request origin]

/-- A failure counted against the other address turns the first sign-in into a failure of Alice's,
though it names neither her nor her own address. -/
theorem locked_through_other_origin :
    (Visit.guard (.recordOriginFailure elsewhere)).touches strict home = false ∧
      opening.hear strict home visits = [.guard (.ok ⟨some false, none⟩), .login (.ok user)] ∧
      opening.hear strict home (.guard (.recordOriginFailure elsewhere) :: visits) =
        [.guard (.ok ⟨some true, none⟩), .login (.error (.error .invalidCredentials))] := by
  decide +kernel

end Sample

end Gatehouse.Service
