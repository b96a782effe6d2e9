import Gatehouse.Proofs.Guard.Backoff
import Gatehouse.Proofs.Guard.Machine
import Gatehouse.Proofs.Guard.Reading
import Gatehouse.Proofs.Guard.Window

/-! Origins and their blocks. For one origin the guard is a machine with a window of failures, a
level and the end of a block. Each block raises the level by one, and only a success may lower it;
where it may not, the first block is of level one, the second of level two and so on. -/
namespace Gatehouse.Guard

open Counter (Action Key Timed)
open Counter.Action

/-- What the guard knows of an origin. -/
structure Blocking where
  window : Option Window
  /-- The number of blocks, as far as it has not been forgotten. -/
  level : Nat
  block : Option Ending
deriving DecidableEq

namespace Blocking

def start : Blocking := ⟨none, 0, none⟩

def isBlocked (b : Blocking) (now : Uptime) : Bool := b.block.any (·.isAhead now)

/-- Whether the origin is blocked, and for how much longer if that is limited. -/
def answer (b : Blocking) (now : Uptime) : OriginAnswer :=
  match b.block with
  | none => .block false none
  | some ending =>
    if ending.isAhead now then .block true (ending.map (· - now)) else .block false none

/-- A failure, and for how long it blocks the origin. -/
def fail (c : Config) (b : Blocking) (now : Uptime) : Option Span × Blocking :=
  let window := Window.next c.originWindow now b.window
  if max c.originThreshold.toNat 1 ≤ window.count then
    let level := min (b.level + 1) Counter.ceiling
    (some (c.blockDuration level), ⟨none, level, some (deadlineAfter now (c.blockDuration level))⟩)
  else (none, { b with window := some window })

/-- A call that is about the origin, and what it says of it. -/
def act (c : Config) (b : Blocking) (now : Uptime) : Act → Option OriginAnswer × Blocking
  | .recordFailure _ _ | .recordOriginFailure _ =>
    (some (.blockedFor (b.fail c now).1), (b.fail c now).2)
  | .clearOnSuccess _ _ =>
    (none, ⟨none, if c.resetOnSuccess then 0 else b.level, b.block⟩)
  | .unblockOrigin _ => (some (.lifted (b.isBlocked now)), ⟨none, b.level, none⟩)
  | .originBlock _ => (some (b.answer now), b)
  | .recordUserFailure _ | .unlockUser _ | .isUserLocked _ => (none, b)

def machine (c : Config) (origin : String) : Machine Blocking OriginAnswer :=
  .minding (concernsOrigin origin) fun now b => b.act c now

/-! ## The store follows -/

/-- The slot that shows a level; there is none before the first block. -/
def levelSlot (level : Nat) : Option Counter.Slot := if level = 0 then none else some ⟨level, none⟩

/-- The keys of the origin show the window, the level and the block. -/
structure Tracks (c : Config) (origin : String) (t : Timed) (b : Blocking) : Prop where
  window : t.store.Shows t.now (Key.originAttempts origin).text
    (b.window.map (Window.slot c.originWindow))
  level : t.store.Shows t.now (Key.originBlockLevel origin).text (levelSlot b.level)
  block : t.store.Shows t.now (Key.originBlock origin).text (b.block.map fun ending => ⟨1, ending⟩)
  below : Window.Below c.originThreshold.toNat b.window
  /-- The clock can express the end of the block. -/
  lt_limit (ending : Ending) (h : b.block = some ending) (instant : Uptime)
    (hinstant : ending = some instant) : instant < Uptime.limit

variable {c : Config} {origin : String} {t : Timed} {b : Blocking}

theorem tracks_start (now : Uptime) : Tracks c origin ⟨now, .empty⟩ start where
  window := Counter.Store.shows_empty
  level := Counter.Store.shows_empty
  block := Counter.Store.shows_empty
  below := Window.below_none
  lt_limit _ h := by cases h

theorem counted_levelSlot (level : Nat) (now : Uptime) :
    Counter.Store.counted now none ((levelSlot level).filter (·.isLive now)) =
      ⟨min (level + 1) Counter.ceiling, none⟩ := by
  unfold levelSlot
  split
  · rename_i h
    rw [h]
    rfl
  · rename_i h
    exact Counter.Store.counted_some none (Nat.pos_of_ne_zero h)

theorem levelSlot_raised (level : Nat) :
    levelSlot (min (level + 1) Counter.ceiling) = some ⟨min (level + 1) Counter.ceiling, none⟩ := by
  have hpos : 1 ≤ Counter.ceiling := by decide
  exact if_neg (by omega)

namespace Tracks

theorem isBlocked_eq (h : Tracks c origin t b) :
    (t.store.live? t.now (Key.originBlock origin).text).isSome = b.isBlocked t.now := by
  rw [h.block.live?, Option.isSome_filter, Option.any_map]
  rfl

theorem of_spares {α : Type} {a : Action α} (h : Tracks c origin t b)
    (hattempts : Spares (Key.originAttempts origin).text a)
    (hlevel : Spares (Key.originBlockLevel origin).text a)
    (hblock : Spares (Key.originBlock origin).text a) :
    Tracks c origin { t with store := (a.run (.sound t.now) t.store).2 } b where
  window := hattempts.shows h.window
  level := hlevel.shows h.level
  block := hblock.shows h.block
  below := h.below
  lt_limit := h.lt_limit

theorem attempts_ne_block : (Key.originAttempts origin).text ≠ (Key.originBlock origin).text := by
  simp

theorem attempts_ne_level :
    (Key.originAttempts origin).text ≠ (Key.originBlockLevel origin).text := by
  simp

theorem block_ne_level : (Key.originBlock origin).text ≠ (Key.originBlockLevel origin).text := by
  simp

/-- A key that shows a level shows the next one after a count, which answers that level. -/
theorem raise {s : Counter.Store} {now : Uptime} {key : String} {level : Nat}
    (h : s.Shows now key (levelSlot level)) :
    (s.increment now key none).1 = min (level + 1) Counter.ceiling ∧
      (s.increment now key none).2.Shows now key
        (levelSlot (min (level + 1) Counter.ceiling)) := by
  have hslot : Counter.Store.counted now none (s.live? now key) =
      ⟨min (level + 1) Counter.ceiling, none⟩ := by
    rw [h.live?, counted_levelSlot]
  refine ⟨?_, ?_⟩
  · rw [s.increment_fst, hslot]
  · rw [levelSlot_raised]
    exact hslot ▸ s.shows_increment none

theorem fail (hc : c.enabled = true) (h : Tracks c origin t b) :
    ((recordOriginFailure c origin).run (.sound t.now) t.store).1 = .ok (b.fail c t.now).1 ∧
      Tracks c origin
        { t with store := ((recordOriginFailure c origin).run (.sound t.now) t.store).2 }
        (b.fail c t.now).2 := by
  obtain ⟨hcount, hwindow⟩ := Window.increment h.window h.below
  have hlevel := h.level.increment attempts_ne_level (some c.originWindow)
  have hblock := h.block.increment attempts_ne_block (some c.originWindow)
  have hreached := Window.max_le_count_iff c.originWindow t.now h.below
  rw [← hcount] at hreached
  rw [run_recordOriginFailure c t.now t.store hc origin]
  unfold Blocking.fail
  dsimp only
  rw [← hcount]
  split
  · rename_i hthreshold
    obtain ⟨hanswer, hraised⟩ := raise hlevel
    rw [if_pos (hreached.mpr hthreshold), hanswer]
    refine ⟨rfl, Counter.Store.shows_delete _, ?_, ?_, Window.below_none, ?_⟩
    · exact (hraised.setFlag block_ne_level _).delete attempts_ne_level
    · exact (Counter.Store.shows_setFlag _ _).delete attempts_ne_block
    · rintro ending ⟨⟩ instant hinstant
      exact Counter.Store.lt_limit_of_deadlineAfter hinstant
  · rename_i hthreshold
    have hnot := mt hreached.mp hthreshold
    rw [if_neg hnot]
    exact ⟨rfl, hwindow, hlevel, hblock, Window.below_next h.below (hcount ▸ hnot), h.lt_limit⟩

theorem clear (hc : c.enabled = true) (h : Tracks c origin t b) (username : String) :
    Tracks c origin
      { t with store := ((clearOnSuccess c username origin).run (.sound t.now) t.store).2 }
      ⟨none, if c.resetOnSuccess then 0 else b.level, b.block⟩ := by
  let cleared := (t.store.delete t.now (Key.userAttempts username).text).2.delete t.now
    (Key.originAttempts origin).text
  have hwindow : cleared.2.Shows t.now (Key.originAttempts origin).text none :=
    Counter.Store.shows_delete _
  have hlevel := (h.level.delete (k := (Key.userAttempts username).text) (by simp)).delete
    attempts_ne_level
  have hblock := (h.block.delete (k := (Key.userAttempts username).text) (by simp)).delete
    attempts_ne_block
  rw [run_clearOnSuccess c t.now t.store hc]
  cases c.resetOnSuccess with
  | false => exact ⟨hwindow, hlevel, hblock, Window.below_none, h.lt_limit⟩
  | true =>
    exact ⟨hwindow.delete attempts_ne_level.symm, Counter.Store.shows_delete _,
      hblock.delete block_ne_level.symm, Window.below_none, h.lt_limit⟩

theorem unblock (h : Tracks c origin t b) :
    ((unblockOrigin origin).run (.sound t.now) t.store).1 = .ok (b.isBlocked t.now) ∧
      Tracks c origin { t with store := ((unblockOrigin origin).run (.sound t.now) t.store).2 }
        ⟨none, b.level, none⟩ := by
  rw [run_unblockOrigin t.now t.store origin, h.isBlocked_eq]
  refine ⟨rfl, Counter.Store.shows_delete _, ?_, ?_, Window.below_none, ?_⟩
  · exact (h.level.delete block_ne_level).delete attempts_ne_level
  · exact (Counter.Store.shows_delete t.store).delete attempts_ne_block
  · rintro ending ⟨⟩

/-- The time left is exact, since no deadline is beyond the clock. -/
theorem answer_eq (h : Tracks c origin t b) :
    OriginAnswer.block (blockOf t.now t.store origin).blocked
      ((blockOf t.now t.store origin).remaining.map Span.nanos) = b.answer t.now := by
  unfold blockOf answer
  rw [h.block.live?]
  cases hblock : b.block with
  | none => rfl
  | some ending =>
    have hlive : Counter.Slot.isLive ⟨1, ending⟩ t.now = ending.isAhead t.now := rfl
    simp only [Option.map_some, Option.filter_some, hlive]
    cases ending.isAhead t.now with
    | false => rfl
    | true =>
      cases ending with
      | none => rfl
      | some instant =>
        have hlimit := h.lt_limit (some instant) hblock instant rfl
        have hrange : instant - t.now < Span.limit :=
          Nat.lt_of_le_of_lt (Nat.sub_le instant t.now) (Nat.lt_trans hlimit (by decide))
        simp [Counter.Slot.remaining, Span.nanos_ofNanos hrange]

/-- A call about the origin says what the machine says. -/
theorem act (hc : c.enabled = true) (h : Tracks c origin t b) {a : Act}
    (ha : a.origin? = some origin) :
    ((a.action c).run (.sound t.now) t.store).1.map Reply.origin = .ok (b.act c t.now a).1 ∧
      Tracks c origin { t with store := ((a.action c).run (.sound t.now) t.store).2 }
        (b.act c t.now a).2 := by
  cases a with
  | recordFailure username o =>
    obtain rfl : o = origin := Option.some.inj ha
    have huser : Tracks c o
        { t with store := ((recordUserFailure c username).run (.sound t.now) t.store).2 } b :=
      h.of_spares (spares_recordUserFailure (by simp) (by simp))
        (spares_recordUserFailure (by simp) (by simp))
        (spares_recordUserFailure (by simp) (by simp))
    obtain ⟨hanswer, htracks⟩ := huser.fail hc
    dsimp only at hanswer
    refine ⟨?_, htracks⟩
    simp only [Act.action, run_bind_pure, run_recordFailure, hanswer]
    rfl
  | recordOriginFailure o =>
    obtain rfl : o = origin := Option.some.inj ha
    obtain ⟨hanswer, htracks⟩ := h.fail hc
    simp only [Act.action, run_bind_pure, hanswer]
    exact ⟨rfl, htracks⟩
  | clearOnSuccess username o =>
    obtain rfl : o = origin := Option.some.inj ha
    have hanswer : ((clearOnSuccess c username o).run (.sound t.now) t.store).1 = .ok () := by
      rw [run_clearOnSuccess c t.now t.store hc]
    simp only [Act.action, run_bind_pure, hanswer]
    exact ⟨rfl, h.clear hc username⟩
  | unblockOrigin o =>
    obtain rfl : o = origin := Option.some.inj ha
    obtain ⟨hanswer, htracks⟩ := h.unblock
    simp only [Act.action, run_bind_pure, hanswer]
    exact ⟨rfl, htracks⟩
  | originBlock o =>
    obtain rfl : o = origin := Option.some.inj ha
    have hanswer : ((originBlock c o).run (.sound t.now) t.store).1 =
        .ok (blockOf t.now t.store o) := by
      rw [run_originBlock, if_pos hc]
    simp only [Act.action, run_bind_pure, hanswer]
    exact ⟨congrArg (Except.ok ∘ some) h.answer_eq,
      h.of_spares spares_originBlock spares_originBlock spares_originBlock⟩
  | _ => contradiction

theorem other (h : Tracks c origin t b) {a : Act} (ha : a.origin? ≠ some origin) :
    Tracks c origin { t with store := ((a.action c).run (.sound t.now) t.store).2 } b := by
  have hne (o : String) (ho : a.origin? = some o) : o ≠ origin := fun heq => ha (heq ▸ ho)
  refine h.of_spares (spares_action (by simp) fun o ho => ?_)
    (spares_action (by simp) fun o ho => ?_) (spares_action (by simp) fun o ho => ?_)
  · simp [hne o ho]
  · simp [hne o ho]
  · simp [hne o ho]

theorem follows (hc : c.enabled = true) :
    (machine c origin).Follows c (about (concernsOrigin origin) Reply.origin)
      (Tracks c origin) := by
  apply Machine.follows_minding
  case hact => exact fun t b a h ha => h.act hc (of_decide_eq_true ha)
  case hother => exact fun t b a h ha => h.other (of_decide_eq_false ha)
  case hpurge =>
    exact fun t b h => ⟨h.window.purge, h.level.purge, h.block.purge, h.below, h.lt_limit⟩
  case hlater =>
    exact fun t b later h hle =>
      ⟨h.window.of_le hle, h.level.of_le hle, h.block.of_le hle, h.below, h.lt_limit⟩

end Tracks

/-! ## Blocks one after another -/

/-- The lengths of the blocks that a list of answers tells of. -/
def durations (answers : List (Option OriginAnswer)) : List Span :=
  answers.filterMap (·.bind OriginAnswer.newBlock)

/-- The level after an event that brings a block, or brings none. -/
def Climbs (c : Config) (level after : Nat) : Option Span → Prop
  | none => after = level
  | some d =>
    after = min (level + 1) Counter.ceiling ∧ d = c.blockDuration ((level + 1 : Nat) : Int)

theorem climbs_fail (c : Config) (b : Blocking) (now : Uptime) :
    Climbs c b.level (b.fail c now).2.level (b.fail c now).1 := by
  unfold fail
  dsimp only
  split
  · exact ⟨rfl, c.blockDuration_min (b.level + 1) 0⟩
  · rfl

/-- Where successes leave the level alone, it only climbs. -/
theorem climbs_step (hreset : c.resetOnSuccess = false) (origin : String) (now : Uptime)
    (b : Blocking) (e : Event) :
    Climbs c b.level ((machine c origin).step now b e).2.level
      (((machine c origin).step now b e).1.bind OriginAnswer.newBlock) := by
  unfold machine
  rcases Machine.minding_cases (concernsOrigin origin) (fun now b => b.act c now) now b e with
    hnone | ⟨a, -, -, hact⟩
  · rw [hnone]
    rfl
  · rw [hact]
    cases a with
    | recordFailure username o => exact climbs_fail c b now
    | recordOriginFailure o => exact climbs_fail c b now
    | clearOnSuccess username o => simp [act, Climbs, hreset]
    | originBlock o =>
      have hnone : (b.answer now).newBlock = none := by
        unfold answer
        split
        · rfl
        · split <;> rfl
      simp [act, Climbs, hnone]
    | _ => rfl

theorem durations_cons (answer : Option OriginAnswer) (rest : List (Option OriginAnswer)) :
    durations (answer :: rest) =
      (answer.bind OriginAnswer.newBlock).toList ++ durations rest := by
  unfold durations
  rw [List.filterMap_cons]
  split
  · rename_i h
    rw [h]
    rfl
  · rename_i d h
    rw [h]
    rfl

/-- Each block of a run is of the length of its level, counted on from the level at first. -/
theorem getElem?_durations (hreset : c.resetOnSuccess = false) {b : Blocking} {now : Uptime}
    {events : List Event} {k : Nat} {d : Span}
    (hd : (durations ((machine c origin).answers now b events))[k]? = some d) :
    d = c.blockDuration ((b.level + 1 + k : Nat) : Int) := by
  -- By the events from the front: a block found there is the first and moves the level on by one.
  induction events generalizing b now k with
  | nil => simp [Machine.answers, durations] at hd
  | cons e rest ih =>
    have hclimbs := climbs_step hreset origin now b e
    rw [Machine.answers, durations_cons] at hd
    cases hblock : ((machine c origin).step now b e).1.bind OriginAnswer.newBlock with
    | none =>
      rw [hblock] at hclimbs hd
      have hlevel : ((machine c origin).step now b e).2.level = b.level := hclimbs
      rw [ih hd, hlevel]
    | some first =>
      rw [hblock] at hclimbs hd
      obtain ⟨hlevel, hfirst⟩ := hclimbs
      cases k with
      | zero =>
        obtain rfl : first = d := by simpa using hd
        exact hfirst
      | succ k =>
        have hlater := ih hd
        rw [hlevel, Nat.add_assoc, c.blockDuration_min] at hlater
        rw [hlater]
        congr 2
        omega

/-- What the guard says of an origin, in any run over a store that was empty at first, is what the
machine of the origin says; and where successes leave the level alone, the first block of the run is
as long as a block of level one, the second as one of level two, and so on. -/
theorem answers_about_origin (c : Config) (hc : c.enabled = true) (origin : String) (now : Uptime)
    (events : List Event) :
    let said := (machine c origin).answers now start events
    Guard.answers c (about (concernsOrigin origin) Reply.origin) ⟨now, .empty⟩ events =
        said.map .ok ∧
      (c.resetOnSuccess = false → ∀ (k : Nat) (d : Span), (durations said)[k]? = some d →
        d = c.blockDuration ((k + 1 : Nat) : Int)) := by
  intro said
  refine ⟨(Tracks.follows hc).answers_eq (tracks_start now) events, fun hreset k d hd => ?_⟩
  rw [getElem?_durations hreset hd]
  congr 2
  simp only [start]
  omega

/-- With a block at each failure, the second block of an origin is twice as long as the first. -/
theorem answers_about_here :
    let c := Config.default.withOriginLimits 1 (.ofSeconds 60) (.ofSeconds 60)
    let events : List Event :=
      [.act (.recordFailure "alice" "here"), .advance (.ofSeconds 10), .act (.originBlock "here"),
        .act (.clearOnSuccess "alice" "here"), .act (.unblockOrigin "here"),
        .act (.recordOriginFailure "here"), .act (.originBlock "here")]
    let said := [some (.blockedFor (some (.ofSeconds 60))), none,
      some (.block true (some 50000000000)), none, some (.lifted true),
      some (.blockedFor (some (.ofSeconds 120))), some (.block true (some 120000000000))]
    c.enabled = true ∧ c.resetOnSuccess = false ∧
      Guard.answers c (about (concernsOrigin "here") Reply.origin) ⟨0, .empty⟩ events =
        said.map .ok ∧
      (durations said)[1]? = some (c.blockDuration 2) := by
  intro c events said
  obtain ⟨hanswers, hdurations⟩ := answers_about_origin c rfl "here" 0 events
  have hsaid : (machine c "here").answers 0 start events = said := by decide +kernel
  rw [hsaid] at hanswers hdurations
  have hsecond : (durations said)[1]? = some (.ofSeconds 120) := by decide
  rw [hsecond]
  exact ⟨rfl, rfl, hanswers, congrArg some (hdurations rfl 1 _ hsecond)⟩

end Blocking

end Gatehouse.Guard
