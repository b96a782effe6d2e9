import Gatehouse.Proofs.Guard.Halves

/-! Failures that are recorded while the store fails. A record counts first, puts the sanction in
force next and wipes out the count last; so wherever it breaks off, what was counted is there until
its window ends or a sanction has taken its place. -/
namespace Gatehouse.Guard

open Counter (Context Key Operation Script Slot Store Timed Try Write)

namespace Side

/-! ## How a record can end -/

/-- The writes between the count and the sanction. -/
def raising : Side → List Write
  | user _ => []
  | origin name => [.increment (.originBlockLevel name) none]

/-- The length of the side's next sanction. -/
def nextLength (c : Config) (now : Uptime) (store : Store) : Side → Span
  | user _ => c.lockout
  | origin name => c.blockDuration (store.increment now (Key.originBlockLevel name).text none).1

def raised (now : Uptime) (store : Store) : Side → Store
  | user _ => store
  | origin name => (store.increment now (Key.originBlockLevel name).text none).2

/-- The store after one more failure is counted. -/
def recounted (c : Config) (side : Side) (now : Uptime) (store : Store) : Store :=
  (store.increment now side.key.text (some (side.window c))).2

/-- The writes that a record has tried, its answer, and the store that it leaves, for each place at
which it can break off and for its end. -/
inductive Course (c : Config) (side : Side) (now : Uptime) (store : Store) :
    List Try → Except Error (Option Span) → Store → Prop
  | uncounted :
    Course c side now store [⟨side.counting c, false⟩] (.error Counter.unavailable) store
  | below (h : (side.counted c ⟨now, store⟩).value < side.limit c) :
    Course c side now store [⟨side.counting c, true⟩] (.ok none) (side.recounted c now store)
  | unraised (w : Write) (hw : w ∈ side.raising)
    (h : side.limit c ≤ (side.counted c ⟨now, store⟩).value) :
    Course c side now store [⟨side.counting c, true⟩, ⟨w, false⟩] (.error Counter.unavailable)
      (side.recounted c now store)
  | unpunished (h : side.limit c ≤ (side.counted c ⟨now, store⟩).value) :
    Course c side now store
      (⟨side.counting c, true⟩ :: side.raising.map (⟨·, true⟩) ++
        [⟨.setFlag side.flag (side.nextLength c now (side.recounted c now store)), false⟩])
      (.error Counter.unavailable) (side.raised now (side.recounted c now store))
  | unwiped (h : side.limit c ≤ (side.counted c ⟨now, store⟩).value) :
    Course c side now store
      (⟨side.counting c, true⟩ :: side.raising.map (⟨·, true⟩) ++
        [⟨.setFlag side.flag (side.nextLength c now (side.recounted c now store)), true⟩,
          ⟨.delete side.key, false⟩])
      (.error Counter.unavailable)
      ((side.raised now (side.recounted c now store)).setFlag now side.flag.text
        (side.nextLength c now (side.recounted c now store)))
  | complete (h : side.limit c ≤ (side.counted c ⟨now, store⟩).value) :
    Course c side now store
      (⟨side.counting c, true⟩ :: side.raising.map (⟨·, true⟩) ++
        [⟨.setFlag side.flag (side.nextLength c now (side.recounted c now store)), true⟩,
          ⟨.delete side.key, true⟩])
      (.ok (some (side.nextLength c now (side.recounted c now store))))
      (((side.raised now (side.recounted c now store)).setFlag now side.flag.text
        (side.nextLength c now (side.recounted c now store))).delete now side.key.text).2

variable {c : Config} {side : Side} {context : Context} {store : Store}

theorem sentence_cases (side : Side) (length : Span) (context : Context) (store : Store) :
    let journal := (side.sentence length).journal context store
    let run := (side.sentence length).run context store
    let marked := store.setFlag context.now side.flag.text length
    (journal = [⟨.setFlag side.flag length, false⟩] ∧ run = (.error Counter.unavailable, store)) ∨
      (journal = [⟨.setFlag side.flag length, true⟩, ⟨.delete side.key, false⟩] ∧
        run = (.error Counter.unavailable, marked)) ∨
      (journal = [⟨.setFlag side.flag length, true⟩, ⟨.delete side.key, true⟩] ∧
        run = (.ok (some length), (marked.delete context.now side.key.text).2)) := by
  intro journal run marked
  have hflag := Script.write_cases (.setFlag side.flag length)
    (fun _ => .write (.delete side.key) fun _ => .done (some length)) context store
  have hdelete := Script.write_cases (.delete side.key)
    (fun _ => .done (some length)) context marked
  rcases hflag with hfailed | ⟨hjournal, hrun⟩
  · exact .inl hfailed
  rcases hdelete with ⟨hrest, hend⟩ | ⟨hrest, hend⟩
  · exact .inr (.inl ⟨hjournal.trans (congrArg _ hrest), hrun.trans hend⟩)
  · exact .inr (.inr ⟨hjournal.trans (congrArg _ hrest), hrun.trans hend⟩)

/-- The level of an origin comes before the sentence; for a username there is nothing to raise. -/
theorem punishment_cases (c : Config) (side : Side) (context : Context) (store : Store) :
    let sentence := side.sentence (side.nextLength c context.now store)
    (∃ w ∈ side.raising, (side.punishment c).journal context store = [⟨w, false⟩] ∧
        (side.punishment c).run context store = (.error Counter.unavailable, store)) ∨
      ((side.punishment c).journal context store = side.raising.map (⟨·, true⟩) ++
          sentence.journal context (side.raised context.now store) ∧
        (side.punishment c).run context store =
          sentence.run context (side.raised context.now store)) := by
  cases side with
  | user name => exact .inr ⟨rfl, rfl⟩
  | origin name =>
    have hraise := Script.write_cases (.increment (.originBlockLevel name) none)
      (fun (level : Nat) => (origin name).sentence (c.blockDuration level)) context store
    rcases hraise with hfailed | hraised
    · exact .inl ⟨_, List.mem_singleton_self _, hfailed⟩
    · exact .inr hraised

theorem course_of_reached (context : Context)
    (hreached : side.limit c ≤ (side.counted c ⟨context.now, store⟩).value) :
    let run := (side.punishment c).run context (side.recounted c context.now store)
    Course c side context.now store (⟨side.counting c, true⟩ ::
      (side.punishment c).journal context (side.recounted c context.now store)) run.1 run.2 := by
  intro run
  rcases punishment_cases c side context (side.recounted c context.now store) with
    ⟨w, hw, hjournal, hrun⟩ | ⟨hjournal, hrun⟩
  · simp only [run, hjournal, hrun]
    exact .unraised w hw hreached
  rcases sentence_cases side (side.nextLength c context.now (side.recounted c context.now store))
    context (side.raised context.now (side.recounted c context.now store)) with
    ⟨hlast, hend⟩ | ⟨hlast, hend⟩ | ⟨hlast, hend⟩
  · simp only [run, hjournal, hrun, hlast, hend]
    exact .unpunished hreached
  · simp only [run, hjournal, hrun, hlast, hend]
    exact .unwiped hreached
  · simp only [run, hjournal, hrun, hlast, hend]
    exact .complete hreached

/-- Every record takes one of these courses. -/
theorem course (hc : c.enabled = true) (side : Side) (context : Context) (store : Store) :
    Course c side context.now store ((side.script c).journal context store)
      ((side.half c).run context store).1 ((side.half c).run context store).2 := by
  have hscript : side.script c = .write (side.counting c) (side.verdict c) := if_pos hc
  rw [← run_script, hscript]
  rcases Script.write_cases (side.counting c) (side.verdict c) context store with
    ⟨hjournal, hrun⟩ | ⟨hjournal, hrun⟩
  · rw [hjournal, hrun]
    exact .uncounted
  rw [hjournal, hrun]
  by_cases hreached : side.limit c ≤ (side.counted c ⟨context.now, store⟩).value
  · have hverdict : side.verdict c ((side.counting c).on store context.now).1 =
        side.punishment c := if_pos hreached
    rw [hverdict]
    exact course_of_reached context hreached
  · have hverdict : side.verdict c ((side.counting c).on store context.now).1 = .done none :=
      if_neg hreached
    rw [hverdict]
    exact .below (Nat.lt_of_not_le hreached)

/-! ## What a record leaves -/

variable {now : Uptime} {tries : List Try} {answer : Except Error (Option Span)} {after : Store}

theorem shows_recounted (c : Config) (side : Side) (now : Uptime) (store : Store) :
    (side.recounted c now store).Shows now side.key.text (some (side.counted c ⟨now, store⟩)) :=
  store.shows_increment _

theorem live?_raised {key : Key} (hkey : ∀ w ∈ side.raising, w.key ≠ key) (later : Uptime) :
    (side.raised now store).live? later key.text = store.live? later key.text := by
  cases side with
  | user name => rfl
  | origin name =>
    have hne : (Key.originBlockLevel name).text ≠ key.text :=
      fun htext => hkey _ (List.mem_singleton_self _) (Key.text_injective htext)
    exact (store.live?_increment none).trans (if_neg hne)

theorem raising_ne_key (w : Write) (hw : w ∈ side.raising) : w.key ≠ side.key := by
  cases side with
  | user name => contradiction
  | origin name =>
    obtain rfl := List.mem_singleton.mp hw
    simp [Write.key, key]

theorem flag_ne_key : side.flag.text ≠ side.key.text := by
  cases side <;> simp [flag, key]

/-- Whatever has been counted is shown up to the last write. -/
theorem shows_raised :
    (side.raised now (side.recounted c now store)).Shows now side.key.text
      (some (side.counted c ⟨now, store⟩)) :=
  (shows_recounted c side now store).congr fun later _ => live?_raised raising_ne_key later

/-- The sanction is put in force, and the count wiped out after that, by the last write of all. -/
def Wipes (side : Side) (tries : List Try) : Prop :=
  ∃ before length, ⟨.delete side.key, true⟩ ∉ before ∧
    tries = before ++ [⟨.setFlag side.flag length, true⟩, ⟨.delete side.key, true⟩]

theorem Course.wipes (h : Course c side now store tries answer after)
    (hwipe : ⟨.delete side.key, true⟩ ∈ tries) : side.Wipes tries := by
  cases h with
  | uncounted => simp at hwipe
  | below hbelow => simp [counting] at hwipe
  | unraised w hw hreached => simp [counting] at hwipe
  | unpunished hreached => cases side <;> simp [counting, raising] at hwipe
  | unwiped hreached => cases side <;> simp [counting, raising] at hwipe
  | complete hreached => exact ⟨_, _, by cases side <;> simp [counting, raising], rfl⟩

/-- Whatever has been counted is shown, unless it has been wiped out. -/
theorem Course.counted_or (h : Course c side now store tries answer after)
    (hkept : ⟨.delete side.key, true⟩ ∉ tries) :
    (tries.count ⟨side.counting c, true⟩ = 0 ∧ after = store) ∨
      (tries.count ⟨side.counting c, true⟩ = 1 ∧
        after.Shows now side.key.text (some (side.counted c ⟨now, store⟩))) := by
  cases h with
  | uncounted => exact .inl ⟨by simp, rfl⟩
  | below hbelow => exact .inr ⟨by simp, shows_recounted c side now store⟩
  | unraised w hw hreached => exact .inr ⟨by simp, shows_recounted c side now store⟩
  | unpunished hreached =>
    exact .inr ⟨by cases side <;> simp [counting, raising, key], shows_raised⟩
  | unwiped hreached =>
    exact .inr ⟨by cases side <;> simp [counting, raising, key], shows_raised.setFlag flag_ne_key _⟩
  | complete hreached => simp at hkept

/-- A failure that is counted at or above the threshold is still shown if no sanction has been put
in force for it, and the record has ended in an error. -/
theorem Course.pending (h : Course c side now store tries answer after)
    (hcounted : ⟨side.counting c, true⟩ ∈ tries)
    (hreached : side.limit c ≤ (side.counted c ⟨now, store⟩).value)
    (hunpunished : ∀ length, ⟨.setFlag side.flag length, true⟩ ∉ tries) :
    answer = .error Counter.unavailable ∧
      after.Shows now side.key.text (some (side.counted c ⟨now, store⟩)) := by
  cases h with
  | uncounted => simp at hcounted
  | below hbelow => exact absurd hreached (Nat.not_le_of_lt hbelow)
  | unraised w hw => exact ⟨rfl, shows_recounted c side now store⟩
  | unpunished => exact ⟨rfl, shows_raised⟩
  | unwiped => exact absurd (List.mem_append_right _ List.mem_cons_self) (hunpunished _)
  | complete => exact absurd (List.mem_append_right _ List.mem_cons_self) (hunpunished _)

/-- A failure that is counted at or above the threshold brings a sanction if no write fails. -/
theorem Course.punished (h : Course c side now store tries answer after)
    (hall : ∀ w, ⟨w, false⟩ ∉ tries)
    (hreached : side.limit c ≤ (side.counted c ⟨now, store⟩).value) :
    ∃ length, answer = .ok (some length) ∧
      after.Shows now side.flag.text (some (Store.freshSlot now (some length))) := by
  cases h with
  | uncounted => exact absurd List.mem_cons_self (hall _)
  | below hbelow => exact absurd hreached (Nat.not_le_of_lt hbelow)
  | unraised w hw => exact absurd (by simp) (hall w)
  | unpunished => exact absurd (List.mem_append_right _ List.mem_cons_self) (hall _)
  | unwiped => exact absurd (by simp) (hall (.delete side.key))
  | complete => exact ⟨_, rfl, (Store.shows_setFlag _ _).delete flag_ne_key.symm⟩

/-- No call on a key of the side fails. -/
def Sound (side : Side) (fails : Operation → String → Bool) : Prop :=
  ∀ operation key, side.owns key = true → fails operation key.text = false

/-- Where every call on its keys works, a record breaks off nowhere. -/
theorem not_mem_of_sound (hsound : side.Sound context.fails) (w : Write) :
    ⟨w, false⟩ ∉ (side.script c).journal context store := by
  intro hentry
  have hfails : context.fails w.operation w.key.text = true := Script.fails_of_mem hentry
  rw [hsound w.operation w.key ((within_script c side).key_of_mem hentry)] at hfails
  contradiction

theorem punished_of_sound (hc : c.enabled = true) (context : Context)
    (hsound : side.Sound context.fails)
    (hreached : side.limit c ≤ (side.counted c ⟨context.now, store⟩).value) :
    ∃ length, ((side.half c).run context store).1 = .ok (some length) ∧
      ((side.half c).run context store).2.Shows context.now side.flag.text
        (some (Store.freshSlot context.now (some length))) :=
  (course hc side context store).punished (not_mem_of_sound hsound) hreached

end Side

/-! ## Runs on a store that may fail -/

/-- What can happen while failures are recorded: some calls of a record fail, expired slots are
removed, time passes. -/
inductive Incident where
  | failure (side : Side) (fails : Operation → String → Bool)
  | purge
  | advance (d : Span)

namespace Incident

def next (c : Config) (t : Timed) : Incident → Timed
  | failure side fails => ⟨t.now, ((side.half c).run ⟨t.now, fails⟩ t.store).2⟩
  | purge => ⟨t.now, (t.store.purge t.now).2⟩
  | advance d => ⟨t.now + d.nanos, t.store⟩

/-- The writes that an incident comes to. -/
def tries (c : Config) (t : Timed) : Incident → List Try
  | failure side fails => (side.script c).journal ⟨t.now, fails⟩ t.store
  | _ => []

def outcome (c : Config) (t : Timed) : List Incident → Timed
  | [] => t
  | i :: rest => outcome c (i.next c t) rest

def journal (c : Config) (t : Timed) : List Incident → List Try
  | [] => []
  | i :: rest => i.tries c t ++ journal c (i.next c t) rest

variable {c : Config} {side : Side} {t : Timed} {slot : Slot}

/-- A failed attempt is a failure of its username and one of its origin. -/
theorem outcome_attempt (username origin : String) (fails : Operation → String → Bool) :
    outcome c t [failure (.user username) fails, failure (.origin origin) fails] =
      ⟨t.now, ((recordFailure c username origin).run ⟨t.now, fails⟩ t.store).2⟩ := by
  rw [store_recordFailure]
  rfl

theorem now_le_next (i : Incident) : t.now ≤ (i.next c t).now := by
  cases i with
  | advance d => exact Nat.le_add_right t.now d.nanos
  | _ => exact Nat.le_refl t.now

theorem now_le_outcome (incidents : List Incident) : t.now ≤ (outcome c t incidents).now := by
  induction incidents generalizing t with
  | nil => exact Nat.le_refl t.now
  | cons i rest ih => exact Nat.le_trans (now_le_next i) ih

/-- Only a failure of a side comes to a write on its keys. -/
theorem side_of_mem {i : Incident} {entry : Try} (hentry : entry ∈ i.tries c t)
    (hown : side.owns entry.write.key = true) : ∃ fails, i = failure side fails := by
  cases i with
  | failure other fails =>
    by_cases hside : other = side
    · exact ⟨fails, hside ▸ rfl⟩
    · have hother := (other.within_script c).key_of_mem hentry
      rw [Side.owns_disjoint (Ne.symm hside) _ hown] at hother
      contradiction
  | purge => contradiction
  | advance d => contradiction

/-- The slot of a counter after so many more counts in its window. -/
def grown (slot : Slot) : Nat → Slot
  | 0 => slot
  | counts + 1 => { slot with value := min (slot.value + (counts + 1)) Counter.ceiling }

theorem grown_eq (h : slot.value ≤ Counter.ceiling) (counts : Nat) :
    grown slot counts = { slot with value := min (slot.value + counts) Counter.ceiling } := by
  cases counts with
  | zero => exact congrArg (fun value => { slot with value := value }) (Nat.min_eq_left h).symm
  | succ counts => rfl

theorem grown_grown (m n : Nat) : grown (grown slot m) n = grown slot (m + n) := by
  cases m with
  | zero => rw [Nat.zero_add, grown]
  | succ m =>
    rw [grown_eq (Nat.min_le_right _ _), ← Nat.add_right_comm]
    simp only [grown, Slot.mk.injEq, and_true]
    omega

theorem one_le_grown (hpos : 1 ≤ slot.value) (counts : Nat) : 1 ≤ (grown slot counts).value := by
  cases counts with
  | zero => exact hpos
  | succ counts =>
    exact Nat.le_min.mpr ⟨Nat.le_add_left_of_le (Nat.le_add_left 1 counts), by decide⟩

theorem isLive_grown (counts : Nat) (now : Uptime) :
    (grown slot counts).isLive now = slot.isLive now := by
  cases counts <;> rfl

theorem counted_eq_grown (h : t.store.Shows t.now side.key.text (some slot))
    (hpos : 1 ≤ slot.value) (hlive : slot.isLive t.now = true) :
    side.counted c t = grown slot 1 := by
  unfold Side.counted
  rw [h.live?, Option.filter_some, if_pos hlive, Store.counted_some _ hpos]
  rfl

/-- Between two wipes a counter grows by what is counted in its window, and nothing else of it
changes, whichever calls fail. -/
theorem shows_next (hc : c.enabled = true)
    (h : t.store.Shows t.now side.key.text (some slot)) (hpos : 1 ≤ slot.value) {i : Incident}
    (hlive : slot.isLive (i.next c t).now = true)
    (hkept : ⟨.delete side.key, true⟩ ∉ i.tries c t) :
    (i.next c t).store.Shows (i.next c t).now side.key.text
      (some (grown slot ((i.tries c t).count ⟨side.counting c, true⟩))) := by
  cases i with
  | purge => exact h.purge
  | advance d => exact h.of_le (Nat.le_add_right t.now d.nanos)
  | failure other fails =>
    by_cases hside : other = side
    · subst hside
      rcases (other.course hc ⟨t.now, fails⟩ t.store).counted_or hkept with
        ⟨hcount, hafter⟩ | ⟨hcount, hafter⟩
      · rw [tries, hcount, next, hafter]
        exact h
      · rw [tries, hcount, ← counted_eq_grown h hpos hlive]
        exact hafter
    · -- Another side has neither counted on this key nor changed what it shows.
      have hcount : (tries c t (failure other fails)).count ⟨side.counting c, true⟩ = 0 := by
        refine List.count_eq_zero.mpr fun hmem => ?_
        obtain ⟨_, heq⟩ := side_of_mem hmem side.owns_key
        exact hside (Incident.failure.inj heq).1
      rw [hcount]
      exact h.congr (Side.agree_half hside ⟨t.now, fails⟩ t.store side.key side.owns_key)

theorem shows_outcome (hc : c.enabled = true)
    (h : t.store.Shows t.now side.key.text (some slot)) (hpos : 1 ≤ slot.value)
    {incidents : List Incident} (hlive : slot.isLive (outcome c t incidents).now = true)
    (hkept : ⟨.delete side.key, true⟩ ∉ journal c t incidents) :
    (outcome c t incidents).store.Shows (outcome c t incidents).now side.key.text
      (some (grown slot ((journal c t incidents).count ⟨side.counting c, true⟩))) := by
  induction incidents generalizing t slot with
  | nil => exact h
  | cons i rest ih =>
    rw [journal, List.mem_append, not_or] at hkept
    -- Time only goes on, so a slot that is live in the end was live all along.
    have hfirst : slot.isLive (i.next c t).now = true :=
      Slot.isLive_of_le (now_le_outcome rest) hlive
    rw [journal, List.count_append, ← grown_grown]
    exact ih (shows_next hc h hpos hfirst hkept.1) (one_le_grown hpos _)
      ((isLive_grown _ _).trans hlive) hkept.2

/-- A live counter that no reader sees any more, though its window is still open, has been wiped out
by a failure that had put the sanction in force. -/
theorem wipes_of_gone (hc : c.enabled = true) {i : Incident}
    (hslot : t.store.live? t.now side.key.text = some slot) (hpos : 1 ≤ slot.value)
    (hlive : slot.isLive (i.next c t).now = true)
    (hgone : (i.next c t).store.live? (i.next c t).now side.key.text = none) :
    side.Wipes (i.tries c t) := by
  by_cases hwipe : ⟨.delete side.key, true⟩ ∈ i.tries c t
  · obtain ⟨fails, rfl⟩ := side_of_mem hwipe side.owns_key
    exact (side.course hc ⟨t.now, fails⟩ t.store).wipes hwipe
  · have hshows := shows_next hc (Store.shows_of_live? hslot) hpos hlive hwipe
    rw [hshows.live?, Option.filter_some, if_pos ((isLive_grown _ _).trans hlive)] at hgone
    contradiction

/-- A counter at the threshold or above it is enough for a sanction as soon as the calls work. -/
theorem punished_of_shows (hc : c.enabled = true)
    (h : t.store.Shows t.now side.key.text (some slot)) (hpos : 1 ≤ slot.value)
    (hlive : slot.isLive t.now = true) (hreached : side.limit c ≤ slot.value)
    {fails : Operation → String → Bool} (hsound : side.Sound fails) :
    ∃ length, ((side.half c).run ⟨t.now, fails⟩ t.store).1 = .ok (some length) ∧
      ((side.half c).run ⟨t.now, fails⟩ t.store).2.Shows t.now side.flag.text
        (some (Store.freshSlot t.now (some length))) := by
  have hlimit : side.limit c ≤ Counter.ceiling := by
    cases side
    · exact Window.threshold_le_ceiling _
    · exact Window.threshold_le_ceiling _
  refine Side.punished_of_sound hc ⟨t.now, fails⟩ hsound ?_
  rw [counted_eq_grown (t := t) h hpos hlive]
  exact Nat.le_min.mpr ⟨Nat.le_add_right_of_le hreached, hlimit⟩

end Incident

open Incident in
/-- Whatever the store holds and whichever calls fail, a live counter that has counted a failure is
gone before its time only after the sanction has been put in force. A failure that is counted at the
threshold or above it, and breaks off before that, ends in an error. Its count is shown until the
window ends, together with whatever is counted from then on, unless a sanction wipes it out; and in
that window the next failure that the store records without a fault brings the sanction. -/
theorem failures_not_forgiven (c : Config) (hc : c.enabled = true) (side : Side) (t : Timed) :
    (∀ (i : Incident) (slot : Slot), t.store.live? t.now side.key.text = some slot →
      1 ≤ slot.value → slot.isLive (i.next c t).now = true →
      (i.next c t).store.live? (i.next c t).now side.key.text = none →
      side.Wipes (i.tries c t)) ∧
    ∀ fails : Operation → String → Bool,
      let count := side.counted c t
      let tries := (failure side fails).tries c t
      let after := (failure side fails).next c t
      ⟨side.counting c, true⟩ ∈ tries → side.limit c ≤ count.value →
      (∀ length, ⟨.setFlag side.flag length, true⟩ ∉ tries) →
      ((side.half c).run ⟨t.now, fails⟩ t.store).1 = .error Counter.unavailable ∧
        after.store.Shows t.now side.key.text (some count) ∧
        ∀ incidents : List Incident,
          let last := outcome c after incidents
          let more := (journal c after incidents).count ⟨side.counting c, true⟩
          count.isLive last.now = true → ⟨.delete side.key, true⟩ ∉ journal c after incidents →
          last.store.Shows last.now side.key.text
              (some { count with value := min (count.value + more) Counter.ceiling }) ∧
            ∀ fails : Operation → String → Bool, side.Sound fails →
              ∃ length, ((side.half c).run ⟨last.now, fails⟩ last.store).1 = .ok (some length) ∧
                ((failure side fails).next c last).store.Shows last.now side.flag.text
                  (some (Store.freshSlot last.now (some length))) := by
  refine ⟨fun i slot hslot hpos hlive hgone => wipes_of_gone hc hslot hpos hlive hgone, ?_⟩
  intro fails count tries after hcounted hreached hunpunished
  obtain ⟨hanswer, hshows⟩ :=
    (side.course hc ⟨t.now, fails⟩ t.store).pending hcounted hreached hunpunished
  refine ⟨hanswer, hshows, ?_⟩
  intro incidents last more hlive hkept
  have hpos : 1 ≤ count.value := Side.one_le_counted
  have hle : count.value ≤ Counter.ceiling := Nat.min_le_right _ _
  have hlast : last.store.Shows last.now side.key.text (some (grown count more)) :=
    shows_outcome (t := after) hc hshows hpos hlive hkept
  have hmore : side.limit c ≤ (grown count more).value := by
    rw [grown_eq hle]
    exact Nat.le_min.mpr ⟨Nat.le_add_right_of_le hreached, Nat.le_trans hreached hle⟩
  refine ⟨grown_eq hle more ▸ hlast, fun fails hsound => ?_⟩
  exact punished_of_shows hc hlast (one_le_grown hpos more) ((isLive_grown _ _).trans hlive) hmore
    hsound

namespace Sample

/-- The second failure within a minute locks a username. -/
def twoStrikes : Config := Config.default.withUserLimits 2 (.ofSeconds 60) (.ofSeconds 300)

def noFault (_ : Operation) (_ : String) : Bool := false

def flagFault (operation : Operation) (_ : String) : Bool := operation = .setFlag

def onceFailed : Timed := (Incident.failure (.user "alice") noFault).next twoStrikes ⟨0, .empty⟩

theorem tries_flagFault :
    (Incident.failure (.user "alice") flagFault).tries twoStrikes onceFailed =
      [⟨(Side.user "alice").counting twoStrikes, true⟩,
        ⟨.setFlag (.userLock "alice") (.ofSeconds 300), false⟩] := by
  decide +kernel

/-- Twice the lock cannot be stored; half a minute later, in the same window, it is. -/
theorem locked_once_stored :
    let side := Side.user "alice"
    let incidents := [Incident.failure side flagFault, .advance (.ofSeconds 30), .purge]
    let after := (Incident.failure side flagFault).next twoStrikes onceFailed
    let last := Incident.outcome twoStrikes after incidents
    twoStrikes.enabled = true ∧ (side.counted twoStrikes onceFailed).value = 2 ∧
      ⟨.delete side.key, true⟩ ∉ Incident.journal twoStrikes after incidents ∧
      last.store.Shows last.now side.key.text (some ⟨3, deadlineAfter 0 (.ofSeconds 60)⟩) ∧
      side.Sound noFault ∧
      ∃ length, ((side.half twoStrikes).run ⟨last.now, noFault⟩ last.store).1 = .ok (some length) ∧
        ((Incident.failure side noFault).next twoStrikes last).store.Shows last.now side.flag.text
          (some (Store.freshSlot last.now (some length))) := by
  intro side incidents after last
  obtain ⟨-, hfault⟩ := failures_not_forgiven twoStrikes (by decide) side onceFailed
  have hcount : side.counted twoStrikes onceFailed = ⟨2, deadlineAfter 0 (.ofSeconds 60)⟩ := by
    decide +kernel
  obtain ⟨-, -, hlater⟩ := hfault flagFault (by simp [side, tries_flagFault])
    (by rw [hcount]; decide) (by simp [side, tries_flagFault, Side.counting])
  have hkept : ⟨.delete side.key, true⟩ ∉ Incident.journal twoStrikes after incidents := by
    decide +kernel
  have hmore :
      (Incident.journal twoStrikes after incidents).count ⟨side.counting twoStrikes, true⟩ = 1 := by
    decide +kernel
  have hsound : side.Sound noFault := fun _ _ _ => rfl
  obtain ⟨hshows, hpunished⟩ := hlater incidents (by decide +kernel) hkept
  rw [hmore, hcount] at hshows
  exact ⟨by decide, by rw [hcount], hkept, hshows, hsound, hpunished noFault hsound⟩

end Sample

end Gatehouse.Guard
