import Gatehouse.Proofs.Guard.Endurance

/-! Failures only extend sanctions. No lock in force ends later than one that began now would, and,
where successes leave the level alone, no block later than the next one would. So an end that a
failure puts in the place of another is never an earlier one. -/
namespace Gatehouse.Guard

open Counter (Key Slot Store Timed)
open Counter.Action

variable {c : Config} {now later : Uptime}

/-! ## The order of ends -/

/-- One end is no later than another; never is the last of all. -/
def Ending.NotAfter : Ending → Ending → Prop
  | _, none => True
  | none, some _ => False
  | some a, some b => a ≤ b

namespace Ending

variable {a b d : Ending}

theorem NotAfter.refl (a : Ending) : a.NotAfter a := by
  cases a with
  | none => trivial
  | some instant => exact Nat.le_refl instant

theorem NotAfter.trans (hab : a.NotAfter b) (hbd : b.NotAfter d) : a.NotAfter d := by
  cases d with
  | none => cases a <;> trivial
  | some last =>
    cases b with
    | none => contradiction
    | some middle =>
      cases a with
      | none => contradiction
      | some first => exact Nat.le_trans hab hbd

theorem NotAfter.isAhead (h : a.NotAfter b) (ha : a.isAhead now = true) :
    b.isAhead now = true := by
  cases b with
  | none => rfl
  | some last =>
    cases a with
    | none => contradiction
    | some first =>
      apply decide_eq_true
      exact Nat.lt_of_lt_of_le (of_decide_eq_true ha) h

/-- Beyond what the clock can express the order still holds, since those ends are never. -/
theorem notAfter_deadlineAfter {span longer : Span} (hnow : now ≤ later)
    (hspan : span.nanos ≤ longer.nanos) :
    NotAfter (deadlineAfter now span) (deadlineAfter later longer) := by
  have hends : now + span.nanos ≤ later + longer.nanos := Nat.add_le_add hnow hspan
  unfold deadlineAfter
  split
  · split
    · exact hends
    · trivial
  · rename_i hbeyond
    rw [if_neg fun hlater => hbeyond (Nat.lt_of_le_of_lt hends hlater)]
    trivial

end Ending

/-- A sanction, if there is one, ends no later than that. -/
def EndsBy (sanction : Option Ending) (bound : Ending) : Prop :=
  ∀ ending, sanction = some ending → ending.NotAfter bound

/-- A sanction, if there was one, is still there and ends no sooner. -/
def Lasts (before after : Option Ending) : Prop :=
  ∀ ending, before = some ending → ∃ next, after = some next ∧ ending.NotAfter next

theorem endsBy_none (bound : Ending) : EndsBy none bound := by
  intro ending h
  contradiction

theorem endsBy_some (bound : Ending) : EndsBy (some bound) bound := by
  rintro ending ⟨⟩
  exact .refl bound

theorem EndsBy.mono {sanction : Option Ending} {bound wider : Ending} (h : EndsBy sanction bound)
    (hbound : bound.NotAfter wider) : EndsBy sanction wider :=
  fun ending hending => (h ending hending).trans hbound

theorem EndsBy.lasts {sanction : Option Ending} {bound : Ending} (h : EndsBy sanction bound) :
    Lasts sanction (some bound) :=
  fun ending hending => ⟨bound, rfl, h ending hending⟩

theorem Lasts.refl (sanction : Option Ending) : Lasts sanction sanction :=
  fun ending hending => ⟨ending, hending, .refl ending⟩

/-- A key that shows a sanction goes on being seen if the sanction lasts. -/
theorem Lasts.live? {before after : Option Ending} {s s' : Store} {key : String} {slot : Slot}
    (h : Lasts before after) (hbefore : s.Shows now key (before.map fun ending => ⟨1, ending⟩))
    (hafter : s'.Shows now key (after.map fun ending => ⟨1, ending⟩))
    (hslot : s.live? now key = some slot) :
    ∃ next, s'.live? now key = some next ∧ Ending.NotAfter slot.deadline next.deadline := by
  rw [hbefore.live?] at hslot
  obtain ⟨hshown, hlive⟩ := Option.filter_eq_some_iff.mp hslot
  obtain ⟨ending, hending, rfl⟩ := Option.map_eq_some_iff.mp hshown
  obtain ⟨next, hnext, hle⟩ := h ending hending
  have hahead : next.isAhead now = true := hle.isAhead hlive
  refine ⟨⟨1, next⟩, ?_, hle⟩
  rw [hafter.live?, hnext]
  exact Option.filter_eq_some_iff.mpr ⟨rfl, hahead⟩

/-! ## Locks -/

namespace Lockout

variable {l : Lockout} {username : String}

/-- A lock ends no later than one that began now would. -/
def InTime (c : Config) (now : Uptime) (l : Lockout) : Prop :=
  EndsBy l.lock (deadlineAfter now c.lockout)

theorem InTime.of_le (h : l.InTime c now) (hle : now ≤ later) : l.InTime c later :=
  h.mono (Ending.notAfter_deadlineAfter hle (Nat.le_refl _))

theorem lock_fail (c : Config) (l : Lockout) (now : Uptime) :
    (l.fail c now).2.lock = if (l.fail c now).1 then some (deadlineAfter now c.lockout)
      else l.lock := by
  unfold fail
  dsimp only
  split
  · rfl
  · rfl

theorem InTime.fail (h : l.InTime c now) : (l.fail c now).2.InTime c now := by
  unfold InTime
  rw [lock_fail]
  split
  · exact endsBy_some _
  · exact h

theorem InTime.lasts_fail (h : l.InTime c now) : Lasts l.lock (l.fail c now).2.lock := by
  rw [lock_fail]
  split
  · exact h.lasts
  · exact .refl l.lock

theorem InTime.step (h : l.InTime c now) (e : Event) :
    ((machine c username).step now l e).2.InTime c (e.timeAfter now) := by
  apply Machine.minding_step (h.of_le (e.le_timeAfter now))
  rintro a rfl -
  cases a with
  | recordFailure u origin => exact h.fail
  | recordUserFailure u => exact h.fail
  | unlockUser u => exact endsBy_none _
  | _ => exact h

end Lockout

/-! ## Blocks -/

namespace Blocking

variable {b : Blocking} {origin : String}

/-- How long the next block would be. -/
def nextLength (c : Config) (b : Blocking) : Span := c.blockDuration ((b.level + 1 : Nat) : Int)

/-- A block ends no later than the next one would if it began now. -/
def InTime (c : Config) (now : Uptime) (b : Blocking) : Prop :=
  EndsBy b.block (deadlineAfter now (b.nextLength c))

theorem InTime.of_le (h : b.InTime c now) (hle : now ≤ later) : b.InTime c later :=
  h.mono (Ending.notAfter_deadlineAfter hle (Nat.le_refl _))

theorem fail_cases (c : Config) (b : Blocking) (now : Uptime) :
    ((b.fail c now).2.block = b.block ∧ (b.fail c now).2.level = b.level) ∨
      ((b.fail c now).2.block = some (deadlineAfter now (b.nextLength c)) ∧
        (b.fail c now).2.level = min (b.level + 1) Counter.ceiling) := by
  have hclimbs := climbs_fail c b now
  have hblock := block_fail c b now
  cases hanswer : (b.fail c now).1 with
  | none =>
    rw [hanswer] at hclimbs hblock
    exact .inl ⟨hblock, hclimbs⟩
  | some length =>
    rw [hanswer] at hclimbs hblock
    obtain ⟨hlevel, rfl⟩ := hclimbs
    exact .inr ⟨hblock, hlevel⟩

theorem InTime.fail (h : b.InTime c now) : (b.fail c now).2.InTime c now := by
  unfold InTime nextLength
  rcases fail_cases c b now with ⟨hblock, hlevel⟩ | ⟨hblock, hlevel⟩
  · rw [hblock, hlevel]
    exact h
  · rw [hblock, hlevel]
    apply (endsBy_some _).mono
    apply Ending.notAfter_deadlineAfter (Nat.le_refl now)
    exact le_blockDuration_raised (Nat.le_refl _)

theorem InTime.lasts_fail (h : b.InTime c now) : Lasts b.block (b.fail c now).2.block := by
  rcases fail_cases c b now with ⟨hblock, -⟩ | ⟨hblock, -⟩
  · rw [hblock]
    exact .refl b.block
  · rw [hblock]
    exact h.lasts

theorem InTime.step (hreset : c.resetOnSuccess = false) (h : b.InTime c now) (e : Event) :
    ((machine c origin).step now b e).2.InTime c (e.timeAfter now) := by
  apply Machine.minding_step (h.of_le (e.le_timeAfter now))
  rintro a rfl -
  cases a with
  | recordFailure username o => exact h.fail
  | recordOriginFailure o => exact h.fail
  | clearOnSuccess username o =>
    -- The bound is told by the level, which a success could otherwise have lowered.
    simp only [act, hreset]
    exact h
  | unblockOrigin o => exact endsBy_none _
  | _ => exact h

end Blocking

/-! ## Runs -/

/-- The store and the time after events. -/
def after (c : Config) (t : Timed) (events : List Event) : Timed :=
  events.foldl (fun t e => (step c t e).2) t

theorem now_step (c : Config) (t : Timed) (e : Event) : (step c t e).2.now = e.timeAfter t.now := by
  cases e with
  | act a => rfl
  | purge => rfl
  | advance d => rfl

/-- What the machine's events keep holds of the machine that is related to the guard after a run. -/
theorem Machine.Follows.exists_after {σ α : Type} {m : Machine σ α}
    {about : Event → Reply → Option α} {related : Timed → σ → Prop}
    (h : m.Follows c about related) {P : Uptime → σ → Prop}
    (hstep : ∀ now s e, P now s → P (e.timeAfter now) (m.step now s e).2) {t : Timed} {s : σ}
    (hts : related t s) (hs : P t.now s) (events : List Event) :
    ∃ s', related (Guard.after c t events) s' ∧ P (Guard.after c t events).now s' := by
  induction events generalizing t s with
  | nil => exact ⟨s, hts, hs⟩
  | cons e rest ih =>
    apply ih (h t s e hts).2
    rw [now_step]
    exact hstep t.now s e hs

theorem exists_lockout (hc : c.enabled = true) (username : String) (start : Uptime)
    (events : List Event) :
    ∃ l, Lockout.Tracks c username (after c ⟨start, .empty⟩ events) l ∧
      l.InTime c (after c ⟨start, .empty⟩ events).now :=
  (Lockout.Tracks.follows hc).exists_after (P := Lockout.InTime c) (fun _ _ e h => h.step e)
    (Lockout.tracks_start start) (endsBy_none _) events

theorem exists_blocking (hc : c.enabled = true) (hreset : c.resetOnSuccess = false)
    (origin : String) (start : Uptime) (events : List Event) :
    ∃ b, Blocking.Tracks c origin (after c ⟨start, .empty⟩ events) b ∧
      b.InTime c (after c ⟨start, .empty⟩ events).now :=
  (Blocking.Tracks.follows hc).exists_after (P := Blocking.InTime c)
    (fun _ _ e h => h.step hreset e) (Blocking.tracks_start start) (endsBy_none _) events

/-! ## What a failure does to sanctions, and a success -/

/-- A failure of a username, of an origin, or of both. -/
def failures (username origin : String) : List Act :=
  [.recordFailure username origin, .recordUserFailure username, .recordOriginFailure origin]

/-- The lock of a username and the block of an origin of that name. -/
def sanctions (name : String) : List Key := [.userLock name, .originBlock name]

theorem mem_failures {a : Act} {username origin : String} :
    a ∈ failures username origin ↔ a = .recordFailure username origin ∨
      a = .recordUserFailure username ∨ a = .recordOriginFailure origin := by
  simp [failures]

theorem Lockout.InTime.lasts_step {l : Lockout} {username name origin : String} {a : Act}
    (h : l.InTime c now) (ha : a ∈ failures name origin) :
    Lasts l.lock ((machine c username).step now l (.act a)).2.lock := by
  apply Machine.minding_step (P := fun next : Lockout => Lasts l.lock next.lock) (.refl l.lock)
  rintro _ ⟨⟩ -
  rcases mem_failures.mp ha with rfl | rfl | rfl
  · exact h.lasts_fail
  · exact h.lasts_fail
  · exact .refl l.lock

theorem Blocking.InTime.lasts_step {b : Blocking} {username name origin : String} {a : Act}
    (h : b.InTime c now) (ha : a ∈ failures username name) :
    Lasts b.block ((machine c origin).step now b (.act a)).2.block := by
  apply Machine.minding_step (P := fun next : Blocking => Lasts b.block next.block) (.refl b.block)
  rintro _ ⟨⟩ -
  rcases mem_failures.mp ha with rfl | rfl | rfl
  · exact h.lasts_fail
  · exact .refl b.block
  · exact h.lasts_fail

theorem slots_clearOnSuccess (hc : c.enabled = true) (hreset : c.resetOnSuccess = false) (t : Timed)
    (username origin : String) {key : Key} (huser : .userAttempts username ≠ key)
    (horigin : .originAttempts origin ≠ key) :
    (step c t (.act (.clearOnSuccess username origin))).2.store.slots[key.text]? =
      t.store.slots[key.text]? := by
  have htext {other : Key} (h : other ≠ key) : other.text ≠ key.text :=
    fun heq => h (Key.text_injective heq)
  unfold step
  simp only [Act.action, run_bind_pure, run_clearOnSuccess c t.now t.store hc, hreset]
  exact (Store.slots_delete _ (htext horigin)).trans (Store.slots_delete _ (htext huser))

/-- In every state that an empty store comes to, a failure of anyone leaves every sanction in force
and ends none of them sooner; and a success changes neither a sanction nor the level of an origin,
where it is not to reset that. -/
theorem sanctions_never_shortened (c : Config) (hc : c.enabled = true)
    (hreset : c.resetOnSuccess = false) (start : Uptime) (events : List Event) :
    let t := after c ⟨start, .empty⟩ events
    (∀ username origin, ∀ a ∈ failures username origin, ∀ name, ∀ key ∈ sanctions name,
      ∀ slot, t.store.live? t.now key.text = some slot →
        ∃ next, (step c t (.act a)).2.store.live? t.now key.text = some next ∧
          Ending.NotAfter slot.deadline next.deadline) ∧
    ∀ username origin name, ∀ key ∈ Key.originBlockLevel name :: sanctions name,
      (step c t (.act (.clearOnSuccess username origin))).2.store.slots[key.text]? =
        t.store.slots[key.text]? := by
  intro t
  refine ⟨fun username origin a ha name key hkey slot hslot => ?failure,
    fun username origin name key hkey => ?success⟩
  case failure =>
    simp only [sanctions, List.mem_cons, List.not_mem_nil, or_false] at hkey
    rcases hkey with rfl | rfl
    · obtain ⟨l, htracks, hintime⟩ := exists_lockout hc name start events
      have hnext := (Lockout.Tracks.follows hc t l (.act a) htracks).2
      exact (hintime.lasts_step ha).live? htracks.lock hnext.lock hslot
    · obtain ⟨b, htracks, hintime⟩ := exists_blocking hc hreset name start events
      have hnext := (Blocking.Tracks.follows hc t b (.act a) htracks).2
      exact (hintime.lasts_step ha).live? htracks.block hnext.block hslot
  case success =>
    apply slots_clearOnSuccess hc hreset t
    · rintro rfl
      simp [sanctions] at hkey
    · rintro rfl
      simp [sanctions] at hkey

/-- A second failure ten seconds after the first: the lock of the first was to end at 900 seconds,
and the one in its place ends no sooner. -/
theorem lock_never_shortened_alice :
    let c := Config.default.withUserLimits 1 (.ofSeconds 900) (.ofSeconds 900)
    let t := after c ⟨0, .empty⟩
      [.act (.recordFailure "alice" "here"), .advance (.ofSeconds 10)]
    c.enabled = true ∧ c.resetOnSuccess = false ∧
      t.store.live? t.now (Key.userLock "alice").text = some ⟨1, some 900000000000⟩ ∧
      (∃ next, (step c t (.act (.recordFailure "alice" "there"))).2.store.live? t.now
          (Key.userLock "alice").text = some next ∧
        Ending.NotAfter (some 900000000000) next.deadline) ∧
      (step c t (.act (.clearOnSuccess "alice" "here"))).2.store.slots[(Key.userLock
        "alice").text]? = t.store.slots[(Key.userLock "alice").text]? := by
  intro c t
  obtain ⟨hfailure, hsuccess⟩ := sanctions_never_shortened c rfl rfl 0
    [.act (.recordFailure "alice" "here"), .advance (.ofSeconds 10)]
  have hlock : t.store.live? t.now (Key.userLock "alice").text =
      some ⟨1, some 900000000000⟩ := by decide +kernel
  refine ⟨rfl, rfl, hlock, ?_, ?_⟩
  · exact hfailure "alice" "there" _ (by simp [failures]) "alice" _ (by simp [sanctions]) _ hlock
  · exact hsuccess "alice" "here" "alice" _ (by simp [sanctions])

end Gatehouse.Guard
