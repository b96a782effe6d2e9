import Mathlib.Data.List.Perm.Basic
import Gatehouse.Pool.Basic

/-! Runs of a pool. Jobs are handed in, taken up and brought to an end in any order, and some of
them crash. The count of the jobs under way, which no step compares with the jobs, is right
throughout; every accepted job is started once, in turn, and nobody who waits for the pool is kept
waiting without need or let go too early. -/
namespace Gatehouse.Pool

variable {Job : Type}

inductive Event (Job : Type) where
  | submit (job : Job)
  | start
  /-- The running job at a position ends, well or by crashing. -/
  | finish (position : Nat) (crashed : Bool)
  /-- Someone waits until no job is under way. -/
  | waitIdle
  | shutdown

def Event.isWork : Event Job → Bool
  | start | finish .. => true
  | submit .. | waitIdle | shutdown => false

inductive Outcome (Job : Type) where
  | accepted (job : Job)
  | refused (job : Job)
  | started (job : Job)
  | ended (job : Job) (crashed : Bool)
  /-- The wait for all jobs is over. -/
  | idle
  | closed

namespace Outcome

@[simp]
def accepted? : Outcome Job → Option Job
  | accepted job => some job
  | _ => none

@[simp]
def started? : Outcome Job → Option Job
  | started job => some job
  | _ => none

@[simp]
def ended? : Outcome Job → Option Job
  | ended job _ => some job
  | _ => none

end Outcome

/-- The pool after an event, and what the event has brought about: nothing, if no worker can start a
job, if there is no such running job, or if whoever waits has to go on waiting. -/
def step (p : Pool Job) : Event Job → Option (Outcome Job) × Pool Job
  | .submit job =>
    (some (if (p.submit job).1 then .accepted job else .refused job), (p.submit job).2)
  | .start =>
    match p.start? with
    | some (job, p) => (some (.started job), p)
    | none => (none, p)
  | .finish position crashed => (p.running[position]?.map (.ended · crashed), p.finish position)
  | .waitIdle => (if p.pending = 0 then some .idle else none, p)
  | .shutdown =>
    match p.close? with
    | some p => (some .closed, p)
    | none => (none, p)

/-- All that can come of an event. -/
inductive Change (p : Pool Job) : Option (Outcome Job) → Pool Job → Prop where
  | accepted (job : Job) (hopen : p.closed = false) (hroom : p.queued.length < p.limits.slots) :
    Change p (some (.accepted job))
      { p with queued := p.queued ++ [job], inFlight := p.inFlight + 1 }
  | refused (job : Job) (hbarred : p.closed = true ∨ p.limits.slots ≤ p.queued.length) :
    Change p (some (.refused job)) p
  | started (job : Job) (rest : List Job) (hqueued : p.queued = job :: rest)
    (hfree : p.running.length < p.limits.crew) :
    Change p (some (.started job)) { p with queued := rest, running := p.running ++ [job] }
  | ended (position : Nat) (job : Job) (crashed : Bool)
    (hjob : p.running[position]? = some job) :
    Change p (some (.ended job crashed))
      { p with running := p.running.eraseIdx position, inFlight := p.inFlight - 1 }
  | idle (hidle : p.inFlight = 0) : Change p (some .idle) p
  | closed (hidle : p.inFlight = 0) : Change p (some .closed) { p with closed := true }
  | nothing : Change p none p

theorem leave_enter (p : Pool Job) : p.enter.leave = p := rfl

theorem change_step (p : Pool Job) (e : Event Job) : Change p (p.step e).1 (p.step e).2 := by
  cases e with
  | submit job =>
    by_cases hbarred : p.closed = true ∨ p.limits.slots ≤ p.queued.length
    · simp only [step, submit, if_pos hbarred, leave_enter]
      exact .refused job hbarred
    · simp only [step, submit, if_neg hbarred]
      rw [not_or, Bool.not_eq_true, Nat.not_le] at hbarred
      exact .accepted job hbarred.1 hbarred.2
  | start =>
    cases hqueued : p.queued with
    | nil =>
      simp only [step, start?, hqueued]
      exact .nothing
    | cons job rest =>
      by_cases hfree : p.running.length < p.limits.crew
      · simp only [step, start?, hqueued, if_pos hfree]
        exact .started job rest hqueued hfree
      · simp only [step, start?, hqueued, if_neg hfree]
        exact .nothing
  | finish position crashed =>
    by_cases hposition : position < p.running.length
    · have hjob := List.getElem?_eq_getElem hposition
      simp only [step, finish, if_pos hposition, hjob]
      exact .ended position _ crashed hjob
    · simp only [step, finish, if_neg hposition,
        List.getElem?_eq_none (Nat.le_of_not_lt hposition)]
      exact .nothing
  | waitIdle =>
    by_cases hidle : p.pending = 0
    · simp only [step, if_pos hidle]
      exact .idle hidle
    · simp only [step, if_neg hidle]
      exact .nothing
  | shutdown =>
    by_cases hidle : p.pending = 0
    · simp only [step, close?, if_pos hidle]
      exact .closed hidle
    · simp only [step, close?, if_neg hidle]
      exact .nothing

/-! ## Refusals and waits -/

theorem submit_fst_eq_false_iff (p : Pool Job) (job : Job) :
    (p.submit job).1 = false ↔ p.closed = true ∨ p.limits.slots ≤ p.queued.length := by
  unfold submit
  split <;> simp_all

theorem submit_of_refused {p : Pool Job} {job : Job} (h : (p.submit job).1 = false) :
    p.submit job = (false, p) := by
  rw [submit, if_pos ((submit_fst_eq_false_iff p job).mp h), leave_enter]

theorem isSome_step_waitIdle (p : Pool Job) : (p.step .waitIdle).1.isSome ↔ p.pending = 0 := by
  simp [step]

theorem isSome_step_shutdown (p : Pool Job) : (p.step .shutdown).1.isSome ↔ p.pending = 0 := by
  by_cases hidle : p.pending = 0 <;> simp [step, close?, hidle]

/-! ## Work -/

/-- The number of steps that the workers still have to make: a queued job is to be started and to be
ended. -/
def toil (p : Pool Job) : Nat := 2 * p.queued.length + p.running.length

theorem toil_step (p : Pool Job) {e : Event Job} (he : e.isWork) :
    (p.step e).2.toil + (p.step e).1.toList.length = p.toil := by
  cases e with
  | submit | waitIdle | shutdown => cases he
  | start =>
    cases hqueued : p.queued with
    | nil => simp [step, start?, hqueued]
    | cons job rest =>
      by_cases hfree : p.running.length < p.limits.crew
      · simp only [step, start?, hqueued, if_pos hfree, toil, List.length_cons,
          List.length_append, List.length_nil, Option.toList_some]
        omega
      · simp [step, start?, hqueued, hfree]
  | finish position crashed =>
    by_cases hposition : position < p.running.length
    · have hlength := List.length_eraseIdx_of_lt hposition
      simp only [step, finish, leave, if_pos hposition, toil, hlength,
        List.getElem?_eq_getElem hposition, Option.map_some, Option.toList_some,
        List.length_singleton]
      omega
    · simp [step, finish, hposition]

theorem accepted?_step (p : Pool Job) {e : Event Job} (he : e.isWork) :
    (p.step e).1.toList.filterMap Outcome.accepted? = [] := by
  cases e with
  | submit | waitIdle | shutdown => cases he
  | start =>
    cases hstart : p.start? with
    | none => simp [step, hstart]
    | some started => simp [step, hstart, List.filterMap_cons]
  | finish position crashed =>
    cases hjob : p.running[position]? with
    | none => simp [step, hjob]
    | some job => simp [step, hjob, List.filterMap_cons]

/-- While a job is under way some worker can go on: a job can end, or all of them are free. -/
theorem toil_eq_zero_of_stuck {p : Pool Job} (h : ∀ e : Event Job, e.isWork → (p.step e).1 = none) :
    p.toil = 0 := by
  have hrunning : p.running = [] := by
    simpa [step] using h (.finish 0 false) rfl
  have hqueued : p.queued = [] := by
    refine Classical.byContradiction fun hqueued => ?_
    obtain ⟨job, rest, hqueued⟩ := List.exists_cons_of_ne_nil hqueued
    have hfree : p.running.length < p.limits.crew := by
      rw [hrunning, Limits.crew, List.length_nil]
      omega
    simpa [step, start?, hqueued, hfree] using h .start rfl
  simp [toil, hrunning, hqueued]

/-- A pool with all that has happened in it. -/
structure Run (Job : Type) where
  pool : Pool Job
  log : List (Outcome Job)

namespace Run

def new (limits : Limits) : Run Job := ⟨.new limits, []⟩

def next (r : Run Job) (e : Event Job) : Run Job :=
  ⟨(r.pool.step e).2, r.log ++ (r.pool.step e).1.toList⟩

def after (r : Run Job) (events : List (Event Job)) : Run Job := events.foldl next r

def accepted (r : Run Job) : List Job := r.log.filterMap Outcome.accepted?

def started (r : Run Job) : List Job := r.log.filterMap Outcome.started?

/-- The jobs that have ended, well or by crashing. -/
def ended (r : Run Job) : List Job := r.log.filterMap Outcome.ended?

/-! ## What every event keeps -/

/-- The books of a run: where each job is, and that the pool's own count agrees. -/
structure Balanced (limits : Limits) (r : Run Job) : Prop where
  limits_eq : r.pool.limits = limits
  inFlight : r.pool.inFlight = r.pool.queued.length + r.pool.running.length
  queued_le : r.pool.queued.length ≤ limits.slots
  running_le : r.pool.running.length ≤ limits.crew
  accepted : r.accepted = r.started ++ r.pool.queued
  started : r.started.Perm (r.ended ++ r.pool.running)
  closed : r.pool.closed = true ↔ .closed ∈ r.log
  finished (h : r.pool.closed = true) : r.pool.inFlight = 0

variable {limits : Limits} {r : Run Job}

theorem balanced_new (limits : Limits) : (new limits : Run Job).Balanced limits where
  limits_eq := rfl
  inFlight := rfl
  queued_le := Nat.zero_le _
  running_le := Nat.zero_le _
  accepted := rfl
  started := .refl _
  closed := by simp [new, Pool.new]
  finished _ := rfl

/-- What is put down without any job or the pool having moved leaves the books in order. -/
theorem Balanced.note (h : r.Balanced limits) {o : Outcome Job}
    (haccepted : [o].filterMap Outcome.accepted? = [])
    (hstarted : [o].filterMap Outcome.started? = []) (hended : [o].filterMap Outcome.ended? = [])
    (hclosed : .closed ≠ o) : Balanced limits ⟨r.pool, r.log ++ [o]⟩ where
  limits_eq := h.limits_eq
  inFlight := h.inFlight
  queued_le := h.queued_le
  running_le := h.running_le
  accepted := by
    rw [Run.accepted, Run.started, List.filterMap_append, List.filterMap_append, haccepted, hstarted,
      List.append_nil, List.append_nil]
    exact h.accepted
  started := by
    rw [Run.started, Run.ended, List.filterMap_append, List.filterMap_append, hstarted, hended,
      List.append_nil, List.append_nil]
    exact h.started
  closed := by
    rw [List.mem_append, List.mem_singleton, or_iff_left hclosed]
    exact h.closed
  finished := h.finished

theorem Balanced.change (h : r.Balanced limits) {o : Option (Outcome Job)} {p : Pool Job}
    (hchange : Change r.pool o p) : Balanced limits ⟨p, r.log ++ o.toList⟩ := by
  have haccepted := h.accepted
  have hstarted := h.started
  have hcount := h.inFlight
  have hslots := h.queued_le
  have hcrew := h.running_le
  simp only [Run.accepted, Run.started, Run.ended] at haccepted hstarted
  cases hchange with
  | accepted job hopen hroom =>
    refine ⟨h.limits_eq, ?_, ?_, hcrew, ?_, ?_, ?_, ?_⟩
    · simp only [List.length_append, List.length_singleton]
      omega
    · rw [h.limits_eq] at hroom
      simpa [Nat.succ_le_iff] using hroom
    · simp [Run.accepted, Run.started, List.filterMap_cons, haccepted]
    · simpa [Run.started, Run.ended, List.filterMap_cons] using hstarted
    · simpa using h.closed
    · simp [hopen]
  | refused job hbarred => exact h.note rfl rfl rfl nofun
  | started job rest hqueued hfree =>
    rw [hqueued, List.length_cons] at hcount hslots
    rw [hqueued] at haccepted
    -- The oldest job goes from the queue to the running ones, so those accepted are as before.
    refine ⟨h.limits_eq, ?_, Nat.le_of_succ_le hslots, ?_, ?_, ?_, ?_, h.finished⟩
    · simp only [List.length_append, List.length_singleton]
      omega
    · rw [h.limits_eq] at hfree
      simpa [Nat.succ_le_iff] using hfree
    · simpa [Run.accepted, Run.started, List.filterMap_cons] using haccepted
    · simpa [Run.started, Run.ended, List.filterMap_cons] using hstarted.append_right [job]
    · simpa using h.closed
  | ended position job crashed hjob =>
    obtain ⟨hposition, rfl⟩ := List.getElem?_eq_some_iff.mp hjob
    have hlength := List.length_eraseIdx_of_lt hposition
    refine ⟨h.limits_eq, ?_, hslots, ?_, ?_, ?_, ?_, ?_⟩
    · dsimp only
      omega
    · dsimp only
      omega
    · simpa [Run.accepted, Run.started, List.filterMap_cons] using haccepted
    · have htaken := (List.getElem_cons_eraseIdx_perm hposition).symm
      simpa [Run.started, Run.ended, List.filterMap_cons] using
        hstarted.trans (htaken.append_left _)
    · simpa using h.closed
    · intro hclosed
      have hfinished := h.finished hclosed
      dsimp only
      omega
  | idle hidle => exact h.note rfl rfl rfl nofun
  | closed hidle =>
    refine ⟨h.limits_eq, hcount, hslots, hcrew, ?_, ?_, ?_, fun _ => hidle⟩
    · simpa [Run.accepted, Run.started, List.filterMap_cons] using haccepted
    · simpa [Run.started, Run.ended, List.filterMap_cons] using hstarted
    · simp
  | nothing => simpa using h

theorem Balanced.after (h : r.Balanced limits) (events : List (Event Job)) :
    (r.after events).Balanced limits := by
  induction events generalizing r with
  | nil => exact h
  | cons e events ih => exact ih (h.change (change_step r.pool e))

/-! ## What a whole run keeps -/

theorem Balanced.pending_eq (h : r.Balanced limits) :
    r.pool.pending = r.pool.queued.length + r.pool.running.length :=
  h.inFlight

theorem Balanced.pending_eq_zero_iff (h : r.Balanced limits) :
    r.pool.pending = 0 ↔ r.ended.Perm r.accepted := by
  have hcount := h.pending_eq
  constructor
  · intro hidle
    have hqueued : r.pool.queued = [] := List.eq_nil_of_length_eq_zero (by omega)
    have hrunning : r.pool.running = [] := List.eq_nil_of_length_eq_zero (by omega)
    have hstarted := h.started
    rw [hrunning, List.append_nil] at hstarted
    rw [h.accepted, hqueued, List.append_nil]
    exact hstarted.symm
  · intro hended
    have hlength := hended.length_eq
    have hstarted := h.started.length_eq
    rw [h.accepted, List.length_append] at hlength
    rw [List.length_append] at hstarted
    omega

theorem balanced_after (limits : Limits) (events : List (Event Job)) :
    ((new limits).after events).Balanced limits :=
  (balanced_new limits).after events

/-- Work accepts nothing, and all that it brings about is taken off what there is to do. -/
theorem after_work (r : Run Job) {work : List (Event Job)} (hwork : ∀ e ∈ work, e.isWork) :
    (r.after work).accepted = r.accepted ∧
      (r.after work).log.length + (r.after work).pool.toil = r.log.length + r.pool.toil := by
  induction work generalizing r with
  | nil => exact ⟨rfl, rfl⟩
  | cons e work ih =>
    obtain ⟨he, hwork⟩ := List.forall_mem_cons.mp hwork
    obtain ⟨haccepted, hlength⟩ := ih (r.next e) hwork
    have hstep := toil_step r.pool he
    constructor
    · refine haccepted.trans ?_
      rw [Run.accepted, next, List.filterMap_append, accepted?_step r.pool he, List.append_nil]
      rfl
    · refine hlength.trans ?_
      simp only [next, List.length_append]
      omega

/-! ## A drained pool -/

theorem after_start_finish {job : Job} {rest : List Job} (hqueued : r.pool.queued = job :: rest)
    (hrunning : r.pool.running = []) :
    r.after [.start, .finish 0 false] =
      ⟨{ r.pool with queued := rest, inFlight := r.pool.inFlight - 1 },
        r.log ++ [.started job, .ended job false]⟩ := by
  have hfree : 0 < r.pool.limits.crew := by
    unfold Limits.crew
    omega
  simp [after, next, step, start?, hqueued, hrunning, hfree, finish, leave]

theorem drain_snd_of_nil {State : Type} {p : Pool Job} {run : Job → State → State} {state : State}
    (hqueued : p.queued = []) : (p.drain run state).2 = p := by
  obtain ⟨limits, queued, running, closed, inFlight⟩ := p
  cases hqueued
  rfl

/-- Draining a pool at rest is work: the queued jobs are run to their end in turn. -/
theorem exists_work_drain {State : Type} (run : Job → State → State) (state : State)
    (hrunning : r.pool.running = []) :
    ∃ work : List (Event Job), (∀ e ∈ work, e.isWork) ∧
      (r.after work).pool = (r.pool.drain run state).2 ∧
      (r.after work).started = r.started ++ r.pool.queued ∧
      (r.after work).ended = r.ended ++ r.pool.queued := by
  generalize hqueued : r.pool.queued = jobs
  induction jobs generalizing r with
  | nil => exact ⟨[], by simp, (drain_snd_of_nil hqueued).symm, by simp [after], by simp [after]⟩
  | cons job rest ih =>
    have hfirst := after_start_finish hqueued hrunning
    obtain ⟨work, hwork, hpool, hstarted, hended⟩ :=
      ih (r := r.after [.start, .finish 0 false]) (by rw [hfirst]; exact hrunning) (by rw [hfirst])
    refine ⟨.start :: .finish 0 false :: work, ?_, ?_, ?_, ?_⟩
    · simpa [Event.isWork] using hwork
    · refine hpool.trans ?_
      simp [hfirst, drain, hqueued]
      omega
    · refine hstarted.trans ?_
      simp [hfirst, Run.started, List.filterMap_cons]
    · refine hended.trans ?_
      simp [hfirst, Run.ended, List.filterMap_cons]

/-! ## The books of every pool -/

/-- The books are in order, whatever is handed in, whoever works and whichever jobs crash. The count
is that of the jobs under way, and neither the queue nor the crew is ever too large. A job is refused
only for want of room or after the end, and leaves nothing behind. The jobs are started one by one as
they were accepted, and each of those ends once at most. Waiting is over exactly when all that was
accepted has ended. The workers cannot go on forever on what has been accepted, nor stop before it is
done. -/
theorem accounting (limits : Limits) (events : List (Event Job)) :
    let r : Run Job := (new limits).after events
    let p := r.pool
    p.pending = p.queued.length + p.running.length ∧
      p.queued.length ≤ max limits.capacity 1 ∧ p.running.length ≤ max limits.workers 1 ∧
      (∀ job, (p.submit job).1 = false ↔
        p.queued.length = max limits.capacity 1 ∨ .closed ∈ r.log) ∧
      (∀ job, (p.submit job).1 = false → (p.submit job).2 = p) ∧
      r.accepted = r.started ++ p.queued ∧
      r.started.Perm (r.ended ++ p.running) ∧
      ((p.step .waitIdle).1.isSome ↔ r.ended.Perm r.accepted) ∧
      ((p.step .shutdown).1.isSome ↔ r.ended.Perm r.accepted) ∧
      (.closed ∈ r.log → p.pending = 0 ∧ ∀ job, p.submit job = (false, p)) ∧
      (∀ work : List (Event Job), (∀ e ∈ work, e.isWork) →
        (r.after work).log.length ≤ r.log.length + (2 * p.queued.length + p.running.length) ∧
          ((∀ e : Event Job, e.isWork → ((r.after work).pool.step e).1 = none) →
            (r.after work).started = r.accepted ∧ (r.after work).ended.Perm r.accepted)) := by
  intro r p
  have h : r.Balanced limits := balanced_after limits events
  have hrefused (job : Job) : (p.submit job).1 = false ↔
      p.queued.length = max limits.capacity 1 ∨ .closed ∈ r.log := by
    have hslots : p.queued.length ≤ limits.slots := h.queued_le
    rw [submit_fst_eq_false_iff, h.closed, h.limits_eq, Or.comm]
    exact or_congr_left ⟨Nat.le_antisymm hslots, fun hfull => Nat.le_of_eq hfull.symm⟩
  refine ⟨h.pending_eq, h.queued_le, h.running_le, hrefused,
    fun job hjob => congrArg Prod.snd (submit_of_refused hjob), h.accepted, h.started,
    (isSome_step_waitIdle p).trans h.pending_eq_zero_iff,
    (isSome_step_shutdown p).trans h.pending_eq_zero_iff, ?_, ?_⟩
  · intro hclosed
    exact ⟨h.finished (h.closed.mpr hclosed),
      fun job => submit_of_refused ((hrefused job).mpr (.inr hclosed))⟩
  · intro work hwork
    obtain ⟨haccepted, hlength⟩ := r.after_work hwork
    have hafter : (r.after work).Balanced limits := h.after work
    refine ⟨Nat.le.intro hlength, fun hstuck => ?_⟩
    -- Workers who can do nothing have nothing left to do, so all is started and ended.
    have htoil := toil_eq_zero_of_stuck hstuck
    have hidle : (r.after work).pool.pending = 0 := by
      rw [hafter.pending_eq]
      unfold toil at htoil
      omega
    have hqueued : (r.after work).pool.queued = [] :=
      List.eq_nil_of_length_eq_zero (by unfold toil at htoil; omega)
    have hstarted := hafter.accepted
    rw [hqueued, List.append_nil, haccepted] at hstarted
    exact ⟨hstarted.symm, haccepted ▸ hafter.pending_eq_zero_iff.mp hidle⟩

end Run

end Gatehouse.Pool
