import Gatehouse.Proofs.Guard.Endurance

/-! How many failures can go unpunished. A window opens with the first failure that it counts, so
failures that come close together may fall into two windows, an old one and the one that opens after
it. Whatever the store held before, neither takes as many as the threshold without a sanction. -/
namespace Gatehouse.Guard

open Counter (Action Key Slot Store Timed)
open Counter.Action

/-! ## What a run was told -/

/-- An event of a run: when it came, and the guard's reply. -/
structure Entry where
  time : Uptime
  event : Event
  reply : Except Error Reply

def record (c : Config) (t : Timed) : List Event → List Entry
  | [] => []
  | e :: rest => ⟨t.now, e, (step c t e).1⟩ :: record c (step c t e).2 rest

inductive Side where
  | user (name : String)
  | origin (name : String)

namespace Side

def isFailure : Side → Event → Bool
  | .user name, .act (.recordFailure u _) => u = name
  | .user name, .act (.recordUserFailure u) => u = name
  | .origin name, .act (.recordFailure _ o) => o = name
  | .origin name, .act (.recordOriginFailure o) => o = name
  | _, _ => false

/-- Whether an event wipes out the failures counted so far. -/
def isRelief : Side → Event → Bool
  | .user name, .act (.clearOnSuccess u _) => u = name
  | .user name, .act (.unlockUser u) => u = name
  | .origin name, .act (.clearOnSuccess _ o) => o = name
  | .origin name, .act (.unblockOrigin o) => o = name
  | _, _ => false

/-- Whether a reply tells of a lock or a block that has just begun. -/
def isPunished : Side → Except Error Reply → Bool
  | .user _, .ok r => r.user = some true
  | .origin _, .ok r => (r.origin.bind OriginAnswer.newBlock).isSome
  | _, .error _ => false

def window (c : Config) : Side → Span
  | .user _ => c.userWindow
  | .origin _ => c.originWindow

/-- The number of failures that brings a sanction; there is none without a failure. -/
def threshold (c : Config) : Side → Nat
  | .user _ => max c.userThreshold.toNat 1
  | .origin _ => max c.originThreshold.toNat 1

def key : Side → Key
  | .user name => .userAttempts name
  | .origin name => .originAttempts name

/-- Whether an entry is a failure at an instant, or less than a window after it. -/
def failsFrom (side : Side) (c : Config) (since : Uptime) (entry : Entry) : Bool :=
  side.isFailure entry.event && since ≤ entry.time &&
    entry.time < since + (side.window c).nanos

/-! ## A single event -/

variable {c : Config} {side : Side} {t : Timed} {since : Uptime}

/-- The slot of a side's failures after one more. -/
def counted (side : Side) (c : Config) (t : Timed) : Slot :=
  Store.counted t.now (some (side.window c)) (t.store.live? t.now side.key.text)

theorem one_le_counted : 1 ≤ (side.counted c t).value :=
  Nat.le_min.mpr ⟨Nat.le_add_left 1 _, by decide⟩

/-- A failure that brings no sanction is counted and stays below the threshold. -/
def Counts (side : Side) (c : Config) (t : Timed) (after : Store) : Prop :=
  (side.counted c t).value < side.threshold c ∧
    after.Shows t.now side.key.text (some (side.counted c t))

theorem locks_or_counts (hc : c.enabled = true) (name : String) :
    let after := (recordUserFailure c name).run (.sound t.now) t.store
    after.1 = .ok true ∨ (user name).Counts c t after.2 := by
  intro after
  have hcount : (t.store.increment t.now (Key.userAttempts name).text (some c.userWindow)).1 =
      ((user name).counted c t).value := rfl
  have hafter : after = _ := run_recordUserFailure c t.now t.store hc name
  dsimp only at hafter
  rw [hcount] at hafter
  split at hafter
  · exact .inl (congrArg Prod.fst hafter)
  · rename_i h
    refine .inr ⟨Nat.lt_of_lt_of_le (Nat.lt_of_not_le h) (Nat.le_max_left _ 1), ?_⟩
    rw [hafter]
    exact t.store.shows_increment _

theorem blocks_or_counts (hc : c.enabled = true) (name : String) :
    let after := (recordOriginFailure c name).run (.sound t.now) t.store
    (∃ d, after.1 = .ok (some d)) ∨ (origin name).Counts c t after.2 := by
  intro after
  have hcount : (t.store.increment t.now (Key.originAttempts name).text (some c.originWindow)).1 =
      ((origin name).counted c t).value := rfl
  have hafter : after = _ := run_recordOriginFailure c t.now t.store hc name
  dsimp only at hafter
  rw [hcount] at hafter
  split at hafter
  · exact .inl ⟨_, congrArg Prod.fst hafter⟩
  · rename_i h
    refine .inr ⟨Nat.lt_of_lt_of_le (Nat.lt_of_not_le h) (Nat.le_max_left _ 1), ?_⟩
    rw [hafter]
    exact t.store.shows_increment _

theorem Counts.of_spares {after : Store} (h : side.Counts c t after) {α : Type} {a : Action α}
    (ha : Spares side.key.text a) : side.Counts c t (a.run (.sound t.now) after).2 :=
  ⟨h.1, ha.shows h.2⟩

theorem punished_or_counts (hc : c.enabled = true) {e : Event} (he : side.isFailure e = true) :
    side.isPunished (step c t e).1 = true ∨ side.Counts c t (step c t e).2.store := by
  unfold isFailure at he
  split at he
  · rename_i name u o
    obtain rfl : u = name := of_decide_eq_true he
    rcases locks_or_counts (t := t) hc u with hlocks | hcounts
    · left
      simp only [step, Act.action, run_bind_pure, run_recordFailure, hlocks]
      rfl
    · exact .inr (hcounts.of_spares (spares_recordOriginFailure (by simp [key]) (by simp [key])
        (by simp [key])))
  · rename_i name u
    obtain rfl : u = name := of_decide_eq_true he
    simp only [step, Act.action, run_bind_pure]
    rcases locks_or_counts (t := t) hc u with hlocks | hcounts
    · left
      rw [hlocks]
      rfl
    · exact .inr hcounts
  · rename_i name u o
    obtain rfl : o = name := of_decide_eq_true he
    simp only [step, Act.action, run_bind_pure, run_recordFailure]
    -- The origin's half finds the store as the username's half has left it.
    have hsame : ((recordUserFailure c u).run (.sound t.now) t.store).2.live? t.now
        (origin o).key.text = t.store.live? t.now (origin o).key.text :=
      spares_recordUserFailure (by simp [key]) (by simp [key]) (.sound t.now) t.store t.now
        (Nat.le_refl _)
    generalize (recordUserFailure c u).run (.sound t.now) t.store = half at hsame
    have hcounted : (origin o).counted c ⟨t.now, half.2⟩ = (origin o).counted c t :=
      congrArg (Store.counted t.now _) hsame
    rcases blocks_or_counts (t := ⟨t.now, half.2⟩) hc o with
      ⟨d, hblocks⟩ | ⟨hbelow, hshows⟩
    · left
      dsimp only at hblocks
      rw [hblocks]
      rfl
    · rw [hcounted] at hbelow hshows
      exact .inr ⟨hbelow, hshows⟩
  · rename_i name o
    obtain rfl : o = name := of_decide_eq_true he
    simp only [step, Act.action, run_bind_pure]
    rcases blocks_or_counts (t := t) hc o with ⟨d, hblocks⟩ | hcounts
    · left
      rw [hblocks]
      rfl
    · exact .inr hcounts
  · contradiction

/-- Calls that neither count a failure nor wipe them out leave the count alone. -/
theorem spares_of_other {a : Act} (hfailure : side.isFailure (.act a) = false)
    (hrelief : side.isRelief (.act a) = false) : Spares side.key.text (a.action c) := by
  -- Of the calls that name the side, only a question is left.
  cases side with
  | user name =>
    by_cases hname : a.username? = some name
    · cases a with
      | isUserLocked u => exact .bind spares_isUserLocked fun _ => spares_pure _
      | _ => simp_all [isFailure, isRelief, Act.username?]
    · refine spares_action (fun u hu => ?_) (by simp [key])
      have hne : u ≠ name := fun heq => hname (heq ▸ hu)
      simp [key, hne]
  | origin name =>
    by_cases hname : a.origin? = some name
    · cases a with
      | originBlock o => exact .bind spares_originBlock fun _ => spares_pure _
      | _ => simp_all [isFailure, isRelief, Act.origin?]
    · refine spares_action (by simp [key]) fun o ho => ?_
      have hne : o ≠ name := fun heq => hname (heq ▸ ho)
      simp [key, hne]

theorem shows_of_other {slot : Option Slot} (h : t.store.Shows t.now side.key.text slot) {e : Event}
    (hfailure : side.isFailure e = false) (hrelief : side.isRelief e = false) :
    (step c t e).2.store.Shows (step c t e).2.now side.key.text slot := by
  cases e with
  | act a => exact (spares_of_other hfailure hrelief).shows h
  | purge => exact h.purge
  | advance d => exact h.of_le (Nat.le_add_right t.now d.nanos)

/-! ## Failures without a sanction -/

/-- So many failures since an instant have brought no sanction. Either they were all counted in the
window that is shown, or those counted in it are fewer than the threshold short of them and it stays
open for as long as the failures matter. -/
def Unpunished (side : Side) (c : Config) (since : Uptime) (t : Timed) (failures : Nat) : Prop :=
  failures = 0 ∨ since ≤ t.now ∧ ∃ slot : Slot,
    t.store.Shows t.now side.key.text (some slot) ∧ slot.value < side.threshold c ∧
      (failures ≤ slot.value ∨ failures < slot.value + side.threshold c ∧
        ∀ time, time < since + (side.window c).nanos → slot.isLive time = true)

variable {failures : Nat}

theorem one_le_threshold : 1 ≤ side.threshold c := by
  cases side
  · exact Nat.le_max_right _ 1
  · exact Nat.le_max_right _ 1

theorem threshold_le_ceiling : side.threshold c ≤ Counter.ceiling := by
  have hpos : 1 ≤ Counter.ceiling := by decide
  cases side
  · exact Nat.max_le.mpr ⟨Window.threshold_le_ceiling _, hpos⟩
  · exact Nat.max_le.mpr ⟨Window.threshold_le_ceiling _, hpos⟩

theorem Unpunished.lt (h : side.Unpunished c since t failures) :
    failures < 2 * side.threshold c - 1 := by
  have hpos : 1 ≤ side.threshold c := one_le_threshold
  rcases h with rfl | ⟨-, slot, -, hbelow, hcounted | ⟨hclose, -⟩⟩
  · omega
  · omega
  · omega

theorem now_le_step (e : Event) : t.now ≤ (step c t e).2.now := by
  cases e with
  | advance d => exact Nat.le_add_right t.now d.nanos
  | _ => exact Nat.le_refl t.now

theorem Unpunished.of_other (h : side.Unpunished c since t failures) {e : Event}
    (hfailure : side.isFailure e = false) (hrelief : side.isRelief e = false) :
    side.Unpunished c since (step c t e).2 failures := by
  rcases h with rfl | ⟨hsince, slot, hshows, hslot⟩
  · exact .inl rfl
  · exact .inr ⟨Nat.le_trans hsince (now_le_step e), slot,
      shows_of_other hshows hfailure hrelief, hslot⟩

theorem counted_of_shows {slot : Slot} (h : t.store.Shows t.now side.key.text (some slot))
    (hbelow : slot.value < side.threshold c) :
    side.counted c t =
      if slot.isLive t.now = true ∧ slot.value ≠ 0 then ⟨slot.value + 1, slot.deadline⟩
      else ⟨1, deadlineAfter t.now (side.window c)⟩ := by
  have hceiling : slot.value + 1 ≤ Counter.ceiling :=
    Nat.le_trans hbelow threshold_le_ceiling
  unfold counted
  rw [h.live?, Option.filter_some]
  cases slot.isLive t.now with
  | false => rfl
  | true =>
    by_cases hzero : slot.value = 0
    · simp [Store.counted, hzero, Counter.ceiling]
    · rw [if_pos rfl, Store.counted_some _ (Nat.pos_of_ne_zero hzero), Nat.min_eq_left hceiling]
      simp [hzero]

theorem Unpunished.counts (h : side.Unpunished c since t failures) (hsince : since ≤ t.now)
    (hwithin : t.now < since + (side.window c).nanos) {after : Timed} (hnow : after.now = t.now)
    (hcounts : side.Counts c t after.store) : side.Unpunished c since after (failures + 1) := by
  obtain ⟨hnext, hafter⟩ := hcounts
  have hpos : 1 ≤ (side.counted c t).value := one_le_counted
  refine .inr ⟨hnow ▸ hsince, side.counted c t, hnow ▸ hafter, hnext, ?_⟩
  -- The first failure is counted whatever the slot was; of a later one the slot says where.
  rcases h with rfl | ⟨-, slot, hshows, hbelow, hslot⟩
  · exact .inl hpos
  · have hfresh (time : Uptime) (htime : time < since + (side.window c).nanos) :
        Slot.isLive ⟨1, deadlineAfter t.now (side.window c)⟩ time = true :=
      reaches_deadlineAfter (Nat.add_le_add_right hsince _) time htime
    rw [counted_of_shows hshows hbelow]
    split
    · rcases hslot with hcounted | ⟨hclose, hlasts⟩
      · exact .inl (Nat.succ_le_succ hcounted)
      · exact .inr ⟨by dsimp only; omega, hlasts⟩
    · -- The window is a new one, so what the last one had counted is below the threshold.
      rename_i hnew
      refine .inr ⟨?_, hfresh⟩
      dsimp only
      rcases hslot with hcounted | ⟨hclose, hlasts⟩
      · omega
      · have hzero : slot.value = 0 := by simpa [hlasts t.now hwithin] using hnew
        omega

/-! ## Runs -/

/-- Once the window after an instant is over, no entry is a failure in it. -/
theorem failures_of_over (hover : since + (side.window c).nanos ≤ t.now) (events : List Event) :
    (record c t events).filter (side.failsFrom c since) = [] := by
  induction events generalizing t with
  | nil => rfl
  | cons e rest ih =>
    have hlate : ¬t.now < since + (side.window c).nanos := Nat.not_lt.mpr hover
    have hfirst : side.failsFrom c since ⟨t.now, e, (step c t e).1⟩ = false := by
      simp [failsFrom, hlate]
    rw [record, List.filter_cons_of_neg (by simp [hfirst])]
    exact ih (Nat.le_trans hover (now_le_step e))

theorem now_of_isFailure {e : Event} (he : side.isFailure e = true) :
    (step c t e).2.now = t.now := by
  cases e with
  | act a => rfl
  | _ => cases side <;> contradiction

/-- In a run without relief, failures in a window that bring no sanction are few. -/
theorem failures_lt (hc : c.enabled = true) {events : List Event}
    (hrelief : ∀ e ∈ events, side.isRelief e = false)
    (hnone : ∀ entry ∈ record c t events, side.failsFrom c since entry = true →
      side.isPunished entry.reply = false)
    (h : side.Unpunished c since t failures) :
    failures + ((record c t events).filter (side.failsFrom c since)).length <
      2 * side.threshold c - 1 := by
  induction events generalizing t failures with
  | nil => exact h.lt
  | cons e rest ih =>
    have hlater {failures : Nat} (h : side.Unpunished c since (step c t e).2 failures) :=
      ih (fun e he => hrelief e (List.mem_cons_of_mem _ he))
        (fun entry hentry => hnone entry (List.mem_cons_of_mem _ hentry)) h
    have hfirst := hnone ⟨t.now, e, (step c t e).1⟩ List.mem_cons_self
    cases hfails : side.failsFrom c since ⟨t.now, e, (step c t e).1⟩ with
    | true =>
      rw [record, List.filter_cons_of_pos hfails, List.length_cons]
      have hpunished := hfirst hfails
      simp only [failsFrom, Bool.and_eq_true, decide_eq_true_eq] at hfails
      obtain ⟨⟨hfailure, hsince⟩, hwithin⟩ := hfails
      rcases punished_or_counts (t := t) hc hfailure with hyes | hcounts
      · rw [hyes] at hpunished
        contradiction
      · have hmore := hlater (h.counts hsince hwithin (now_of_isFailure hfailure) hcounts)
        omega
    | false =>
      rw [record, List.filter_cons_of_neg (by simp [hfails])]
      cases hfailure : side.isFailure e with
      | false => exact hlater (h.of_other hfailure (hrelief e List.mem_cons_self))
      | true =>
        simp only [failsFrom, hfailure, Bool.true_and, Bool.and_eq_false_iff,
          decide_eq_false_iff_not] at hfails
        rcases hfails with hearly | hover
        · -- Before the instant nothing has been counted yet.
          rcases h with rfl | ⟨hsince, -⟩
          · exact hlater (.inl rfl)
          · exact absurd hsince hearly
        · have hnow := Nat.le_trans (Nat.le_of_not_lt hover) (now_le_step (c := c) e)
          rw [failures_of_over hnow]
          exact h.lt

/-- From any state of the store on, among failures of one side that come less than a window after an
instant, and are as many as twice the threshold less one, some brings a sanction, unless the count
is wiped out in between. -/
theorem some_failure_punished (c : Config) (hc : c.enabled = true) (side : Side) (t : Timed)
    (since : Uptime) (events : List Event) (hrelief : ∀ e ∈ events, side.isRelief e = false)
    (hmany : 2 * side.threshold c - 1 ≤
      ((record c t events).filter (side.failsFrom c since)).length) :
    ∃ entry ∈ record c t events,
      side.failsFrom c since entry = true ∧ side.isPunished entry.reply = true := by
  refine Classical.byContradiction fun hnone => ?_
  have hfresh : side.Unpunished c since t 0 := .inl rfl
  have hfew := failures_lt hc hrelief
    (fun entry hentry hfails =>
      Bool.eq_false_iff.mpr fun hpunished => hnone ⟨entry, hentry, hfails, hpunished⟩) hfresh
  omega

/-- Four failures of a username and of an origin from which three are too many, the first of them in
a window that is over when the others come, and a fifth. -/
theorem punished_across_windows :
    let c := (Config.default.withUserLimits 3 (.ofSeconds 60) (.ofSeconds 300)).withOriginLimits 3
      (.ofSeconds 60) (.ofSeconds 60)
    let failure : Event := .act (.recordFailure "alice" "here")
    let old : Timed := (step c (step c ⟨0, .empty⟩ failure).2 (.advance (.ofSeconds 59))).2
    let events := [failure, .advance (.ofSeconds 1), failure, .purge, failure, failure, failure]
    let since : Uptime := 59 * nanosPerSecond
    c.enabled = true ∧
      ∀ side ∈ [user "alice", origin "here"],
        (∀ e ∈ events, side.isRelief e = false) ∧
          2 * side.threshold c - 1 ≤
            ((record c old events).filter (side.failsFrom c since)).length ∧
          ∃ entry ∈ record c old events,
            side.failsFrom c since entry = true ∧ side.isPunished entry.reply = true := by
  intro c failure old events since
  refine ⟨rfl, fun side hside => ?_⟩
  have hrelief : ∀ e ∈ events, side.isRelief e = false := by
    revert side
    decide
  have hmany : 2 * side.threshold c - 1 ≤
      ((record c old events).filter (side.failsFrom c since)).length := by
    revert side
    decide +kernel
  exact ⟨hrelief, hmany, some_failure_punished c rfl side old since events hrelief hmany⟩

end Side

end Gatehouse.Guard
