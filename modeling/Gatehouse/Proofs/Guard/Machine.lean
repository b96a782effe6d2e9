import Gatehouse.Proofs.Guard.Frame

/-! Runs of the guard over a counter store that never fails, and machines that could answer in its
place. A machine follows the guard if every event keeps the two related and brings the same answer;
then no run of events tells them apart. -/
namespace Gatehouse.Guard

open Counter (Action Key Store Timed)
open Counter.Action

/-- A call of the guard. -/
inductive Act where
  | recordFailure (username origin : String)
  | recordUserFailure (username : String)
  | recordOriginFailure (origin : String)
  | clearOnSuccess (username origin : String)
  | unlockUser (username : String)
  | unblockOrigin (origin : String)
  | isUserLocked (username : String)
  | originBlock (origin : String)

inductive Event where
  | act (a : Act)
  | purge
  | advance (d : Span)

inductive OriginAnswer where
  /-- Whether the origin is blocked, and the nanoseconds left if they are limited. -/
  | block (isBlocked : Bool) (left : Option Nat)
  | blockedFor (d : Option Span)
  | lifted (wasBlocked : Bool)
deriving DecidableEq

/-- The length of the block that an answer tells has begun. -/
def OriginAnswer.newBlock : OriginAnswer → Option Span
  | .blockedFor d => d
  | .block _ _ | .lifted _ => none

/-- What a call says of the username and of the origin that it is about. -/
structure Reply where
  user : Option Bool
  origin : Option OriginAnswer
deriving DecidableEq

def Reply.none : Reply := ⟨.none, .none⟩

namespace Act

def username? : Act → Option String
  | recordFailure username _ => some username
  | recordUserFailure username => some username
  | clearOnSuccess username _ => some username
  | unlockUser username => some username
  | isUserLocked username => some username
  | _ => none

def origin? : Act → Option String
  | recordFailure _ origin => some origin
  | recordOriginFailure origin => some origin
  | clearOnSuccess _ origin => some origin
  | unblockOrigin origin => some origin
  | originBlock origin => some origin
  | _ => none

def action (c : Config) : Act → Action Reply
  | recordFailure username origin => do
    let sanction ← Guard.recordFailure c username origin
    return ⟨some sanction.userLocked, some (.blockedFor sanction.originBlockedFor)⟩
  | recordUserFailure username => do
    return ⟨some (← Guard.recordUserFailure c username), none⟩
  | recordOriginFailure origin => do
    return ⟨none, some (.blockedFor (← Guard.recordOriginFailure c origin))⟩
  | clearOnSuccess username origin => do
    Guard.clearOnSuccess c username origin
    return .none
  | unlockUser username => do
    return ⟨some (← Guard.unlockUser username), none⟩
  | unblockOrigin origin => do
    return ⟨none, some (.lifted (← Guard.unblockOrigin origin))⟩
  | isUserLocked username => do
    return ⟨some (← Guard.isUserLocked c username), none⟩
  | originBlock origin => do
    let b ← Guard.originBlock c origin
    return ⟨none, some (.block b.blocked (b.remaining.map Span.nanos))⟩

end Act

/-- The guard after an event, and its reply. -/
def step (c : Config) (t : Timed) : Event → Except Error Reply × Timed
  | .act a =>
    let (reply, store) := (a.action c).run (.sound t.now) t.store
    (reply, { t with store })
  | .purge => (.ok .none, { t with store := (t.store.purge t.now).2 })
  | .advance d => (.ok .none, { t with now := t.now + d.nanos })

def Event.timeAfter (now : Uptime) : Event → Uptime
  | .advance d => now + d.nanos
  | _ => now

theorem Event.le_timeAfter (e : Event) (now : Uptime) : now ≤ e.timeAfter now := by
  cases e with
  | advance d => exact Nat.le_add_right now d.nanos
  | _ => exact Nat.le_refl now

/-- The answers of a run as far as they concern someone. -/
def answers {α : Type} (c : Config) (about : Event → Reply → Option α) (t : Timed) :
    List Event → List (Except Error (Option α))
  | [] => []
  | e :: rest => (step c t e).1.map (about e) :: answers c about (step c t e).2 rest

/-- What is said in the replies to some calls; other events say nothing. -/
def about {α : Type} (concerned : Act → Bool) (part : Reply → Option α) :
    Event → Reply → Option α
  | .act a, r => if concerned a then part r else none
  | .purge, _ | .advance _, _ => none

def concernsUser (username : String) (a : Act) : Bool := a.username? = some username

def concernsOrigin (origin : String) (a : Act) : Bool := a.origin? = some origin

/-! ## Machines -/

/-- A machine that answers events as they come. -/
structure Machine (σ α : Type) where
  step : Uptime → σ → Event → Option α × σ

namespace Machine

variable {σ α : Type}

def answers (m : Machine σ α) (now : Uptime) (s : σ) : List Event → List (Option α)
  | [] => []
  | e :: rest => (m.step now s e).1 :: m.answers (e.timeAfter now) (m.step now s e).2 rest

def after (m : Machine σ α) (now : Uptime) (s : σ) : List Event → σ
  | [] => s
  | e :: rest => m.after (e.timeAfter now) (m.step now s e).2 rest

/-- A machine that minds some calls and no other events. -/
def minding (concerned : Act → Bool) (act : Uptime → σ → Act → Option α × σ) : Machine σ α where
  step now s e :=
    match e with
    | .act a => if concerned a then act now s a else (none, s)
    | .purge | .advance _ => (none, s)

/-- An event that is not minded says nothing and changes nothing. -/
theorem minding_cases (concerned : Act → Bool) (act : Uptime → σ → Act → Option α × σ)
    (now : Uptime) (s : σ) (e : Event) :
    (minding concerned act).step now s e = (none, s) ∨
      ∃ a, e = .act a ∧ concerned a = true ∧
        (minding concerned act).step now s e = act now s a := by
  cases e with
  | act a =>
    by_cases ha : concerned a = true
    · exact .inr ⟨a, rfl, ha, if_pos ha⟩
    · exact .inl (if_neg ha)
  | purge => exact .inl rfl
  | advance d => exact .inl rfl

theorem minding_step {concerned : Act → Bool} {act : Uptime → σ → Act → Option α × σ}
    {now : Uptime} {s : σ} {e : Event} {P : σ → Prop} (hnone : P s)
    (hact : ∀ a, e = .act a → concerned a = true → P (act now s a).2) :
    P ((minding concerned act).step now s e).2 := by
  rcases minding_cases concerned act now s e with hstep | ⟨a, he, ha, hstep⟩
  · rw [hstep]
    exact hnone
  · rw [hstep]
    exact hact a he ha

theorem minding_act {concerned : Act → Bool} {act : Uptime → σ → Act → Option α × σ} {a : Act}
    (ha : concerned a = true) (now : Uptime) (s : σ) :
    (minding concerned act).step now s (.act a) = act now s a := if_pos ha

/-- Every event keeps a relation between the guard and the machine, and has the same answer. -/
def Follows (m : Machine σ α) (c : Config) (about : Event → Reply → Option α)
    (related : Timed → σ → Prop) : Prop :=
  ∀ (t : Timed) (s : σ) (e : Event), related t s →
    (Guard.step c t e).1.map (about e) = .ok (m.step t.now s e).1 ∧
      related (Guard.step c t e).2 (m.step t.now s e).2

theorem Follows.answers_eq {m : Machine σ α} {c : Config} {about : Event → Reply → Option α}
    {related : Timed → σ → Prop} (h : m.Follows c about related) {t : Timed} {s : σ}
    (hts : related t s) (events : List Event) :
    Guard.answers c about t events = (m.answers t.now s events).map .ok := by
  induction events generalizing t s with
  | nil => rfl
  | cons e rest ih =>
    obtain ⟨hanswer, hrelated⟩ := h t s e hts
    have hnow : (Guard.step c t e).2.now = e.timeAfter t.now := by cases e <;> rfl
    rw [Guard.answers, answers, List.map_cons, hanswer, ih hrelated, hnow]

/-- A property of states that every event of a run keeps is there after the run. -/
theorem after_of_step {m : Machine σ α} {P : σ → Prop} {since : Uptime} {events : List Event}
    (hstep : ∀ now s e, e ∈ events → since ≤ now → P s → P (m.step now s e).2) {now : Uptime}
    (hnow : since ≤ now) {s : σ} (h : P s) : P (m.after now s events) := by
  induction events generalizing now s with
  | nil => exact h
  | cons e rest ih =>
    exact ih (fun now s e he => hstep now s e (List.mem_cons_of_mem _ he))
      (Nat.le_trans hnow (e.le_timeAfter now)) (hstep now s e List.mem_cons_self hnow h)

end Machine

/-! ## What a call leaves alone, and that it comes to an answer -/

section

variable {c : Config}

theorem spares_action {a : Act} {key : Key}
    (huser : ∀ username, a.username? = some username →
      .userAttempts username ≠ key ∧ .userLock username ≠ key)
    (horigin : ∀ origin, a.origin? = some origin → .originAttempts origin ≠ key ∧
      .originBlockLevel origin ≠ key ∧ .originBlock origin ≠ key) :
    Spares key.text (a.action c) := by
  have htext {other : Key} (h : other ≠ key) : other.text ≠ key.text :=
    fun heq => h (Key.text_injective heq)
  cases a with
  | recordFailure username origin =>
    obtain ⟨huattempts, hlock⟩ := huser username rfl
    obtain ⟨hoattempts, hlevel, hblock⟩ := horigin origin rfl
    exact .bind (spares_recordFailure (spares_recordUserFailure (htext huattempts) (htext hlock))
      (spares_recordOriginFailure (htext hoattempts) (htext hlevel) (htext hblock)))
      fun _ => spares_pure _
  | recordUserFailure username =>
    obtain ⟨hattempts, hlock⟩ := huser username rfl
    exact .bind (spares_recordUserFailure (htext hattempts) (htext hlock)) fun _ => spares_pure _
  | recordOriginFailure origin =>
    obtain ⟨hattempts, hlevel, hblock⟩ := horigin origin rfl
    exact .bind (spares_recordOriginFailure (htext hattempts) (htext hlevel) (htext hblock))
      fun _ => spares_pure _
  | clearOnSuccess username origin =>
    obtain ⟨huattempts, -⟩ := huser username rfl
    obtain ⟨hoattempts, hlevel, -⟩ := horigin origin rfl
    exact .bind (spares_clearOnSuccess (htext huattempts) (htext hoattempts) (htext hlevel))
      fun _ => spares_pure _
  | unlockUser username =>
    obtain ⟨hattempts, hlock⟩ := huser username rfl
    exact .bind (spares_unlockUser (htext hlock) (htext hattempts)) fun _ => spares_pure _
  | unblockOrigin origin =>
    obtain ⟨hattempts, -, hblock⟩ := horigin origin rfl
    exact .bind (spares_unblockOrigin (htext hblock) (htext hattempts)) fun _ => spares_pure _
  | isUserLocked username => exact .bind spares_isUserLocked fun _ => spares_pure _
  | originBlock origin => exact .bind spares_originBlock fun _ => spares_pure _

theorem succeeds_recordUserFailure (username : String) :
    Succeeds (recordUserFailure c username) := by
  unfold recordUserFailure
  split
  · refine .bind (succeeds_call _ _ _) fun count => ?_
    split
    · exact .bind (succeeds_call _ _ _) fun _ => .bind (succeeds_call _ _ _) fun _ =>
        succeeds_pure _
    · exact succeeds_pure _
  · exact succeeds_pure _

theorem succeeds_recordOriginFailure (origin : String) :
    Succeeds (recordOriginFailure c origin) := by
  unfold recordOriginFailure
  split
  · refine .bind (succeeds_call _ _ _) fun count => ?_
    split
    · refine .bind (succeeds_call _ _ _) fun level => ?_
      exact .bind (succeeds_call _ _ _) fun _ => .bind (succeeds_call _ _ _) fun _ =>
        succeeds_pure _
    · exact succeeds_pure _
  · exact succeeds_pure _

theorem succeeds_clearOnSuccess (username origin : String) :
    Succeeds (clearOnSuccess c username origin) := by
  unfold clearOnSuccess
  split
  · refine .bind (succeeds_call _ _ _) fun _ => .bind (succeeds_call _ _ _) fun _ => ?_
    split
    · exact .bind (succeeds_call _ _ _) fun _ => succeeds_pure _
    · exact succeeds_pure _
  · exact succeeds_pure _

theorem succeeds_originBlock (origin : String) : Succeeds (originBlock c origin) := by
  unfold originBlock
  split
  · refine .bind (succeeds_call _ _ _) fun blocked => ?_
    split
    · exact .bind (succeeds_call _ _ _) fun _ => succeeds_pure _
    · exact succeeds_pure _
  · exact succeeds_pure _

theorem succeeds_isUserLocked (username : String) : Succeeds (isUserLocked c username) := by
  unfold isUserLocked
  split
  · exact succeeds_call _ _ _
  · exact succeeds_pure _

theorem succeeds_action (a : Act) : Succeeds (a.action c) := by
  cases a with
  | recordFailure username origin =>
    exact .bind (.bind (succeeds_attempt _) fun _ => .bind (succeeds_attempt _) fun _ =>
      succeeds_pure _) fun _ => succeeds_pure _
  | recordUserFailure username =>
    exact .bind (succeeds_recordUserFailure username) fun _ => succeeds_pure _
  | recordOriginFailure origin =>
    exact .bind (succeeds_recordOriginFailure origin) fun _ => succeeds_pure _
  | clearOnSuccess username origin =>
    exact .bind (succeeds_clearOnSuccess username origin) fun _ => succeeds_pure _
  | unlockUser username =>
    exact .bind (.bind (succeeds_call _ _ _) fun _ => .bind (succeeds_call _ _ _) fun _ =>
      succeeds_pure _) fun _ => succeeds_pure _
  | unblockOrigin origin =>
    exact .bind (.bind (succeeds_call _ _ _) fun _ => .bind (succeeds_call _ _ _) fun _ =>
      succeeds_pure _) fun _ => succeeds_pure _
  | isUserLocked username => exact .bind (succeeds_isUserLocked username) fun _ => succeeds_pure _
  | originBlock origin => exact .bind (succeeds_originBlock origin) fun _ => succeeds_pure _

/-- A relation that calls of no concern, purges and time keep need only be looked at for the calls
that the machine minds. -/
theorem Machine.follows_minding {σ α : Type} {concerned : Act → Bool} {part : Reply → Option α}
    {act : Uptime → σ → Act → Option α × σ} {related : Timed → σ → Prop}
    (hact : ∀ (t : Timed) (s : σ) (a : Act), related t s → concerned a = true →
      ((a.action c).run (.sound t.now) t.store).1.map part = .ok (act t.now s a).1 ∧
        related { t with store := ((a.action c).run (.sound t.now) t.store).2 } (act t.now s a).2)
    (hother : ∀ (t : Timed) (s : σ) (a : Act), related t s → concerned a = false →
      related { t with store := ((a.action c).run (.sound t.now) t.store).2 } s)
    (hpurge : ∀ (t : Timed) (s : σ), related t s →
      related { t with store := (t.store.purge t.now).2 } s)
    (hlater : ∀ (t : Timed) (s : σ) (later : Uptime), related t s → t.now ≤ later →
      related { t with now := later } s) :
    (minding concerned act).Follows c (about concerned part) related := by
  intro t s e h
  cases e with
  | act a =>
    cases ha : concerned a with
    | true =>
      have habout : about concerned part (.act a) = part := funext fun _ => if_pos ha
      rw [minding_act ha, habout]
      exact hact t s a h ha
    | false =>
      have hno : ¬concerned a = true := Bool.eq_false_iff.mp ha
      have hstep : (minding concerned act).step t.now s (.act a) = (none, s) := if_neg hno
      have habout : about concerned part (.act a) = fun _ => none := funext fun _ => if_neg hno
      obtain ⟨reply, hreply⟩ := succeeds_action (c := c) a t.now t.store
      rw [hstep, habout]
      exact ⟨congrArg (Except.map fun _ => none) hreply, hother t s a h ha⟩
  | purge => exact ⟨rfl, hpurge t s h⟩
  | advance d => exact ⟨rfl, hlater t s _ h (Nat.le_add_right t.now d.nanos)⟩

end

end Gatehouse.Guard
