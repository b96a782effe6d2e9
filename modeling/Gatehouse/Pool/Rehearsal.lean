import Gatehouse.Pool.Basic
import Gatehouse.Time.Clock

/-! A pool whose jobs have a known course. Settling lets every job go as far as it can: running jobs
end in the order in which they become able to, then free workers take the next ones, and only when
nothing else is left are those who slept long enough woken. Sleep is counted in whole milliseconds.
-/
namespace Gatehouse.Pool

inductive Course where
  | immediate
  | untilReleased
  | crashing
  | lasting (d : Span)
deriving DecidableEq

structure Task where
  id : String
  course : Course
  /-- The task's number among all that were handed in. -/
  serial : Nat
deriving DecidableEq

structure Rehearsal where
  pool : Pool Task
  now : Uptime
  submitted : Nat
  shut : List Task
  /-- The running tasks that can end, in the order of their turns. -/
  ready : List Task
  /-- The running tasks that sleep, the first to fall asleep first, and when each is to be woken. -/
  asleep : List (Nat × Task)
  /-- The millisecond at which sleepers were last woken. -/
  woken : Nat
  /-- The ids of the tasks that ended well, in the order of their ends. -/
  ran : List String

namespace Rehearsal

def new (limits : Limits) : Rehearsal := ⟨.new limits, 0, 0, [], [], [], 0, []⟩

def wakeAfter (r : Rehearsal) (d : Span) : Nat := Uptime.milliFrom (timerAfter r.now d)

/-- A task that a worker has taken runs up to where it has to wait, if it has to. -/
def start (r : Rehearsal) (task : Task) : Rehearsal :=
  match task.course with
  | .immediate | .crashing => { r with ready := r.ready ++ [task] }
  | .untilReleased => if r.shut.contains task then r else { r with ready := r.ready ++ [task] }
  | .lasting d =>
    if r.wakeAfter d ≤ r.woken then { r with ready := r.ready ++ [task] }
    else { r with asleep := r.asleep ++ [(r.wakeAfter d, task)] }

def finish (r : Rehearsal) (task : Task) : Rehearsal :=
  { r with
    pool := r.pool.finish (r.pool.running.idxOf task)
    ran := if task.course = .crashing then r.ran else r.ran ++ [task.id] }

def wake (r : Rehearsal) : Rehearsal :=
  let (due, asleep) := r.asleep.partition fun sleeper => sleeper.1 ≤ r.now.milli
  { r with
    woken := r.now.milli
    asleep
    ready := r.ready ++ (due.mergeSort fun a b => a.1 ≤ b.1).map Prod.snd }

/-- One end, one start or one waking; a waking that wakes nobody changes nothing else. -/
def step (r : Rehearsal) : Rehearsal :=
  match r.ready with
  | task :: ready => finish { r with ready } task
  | [] =>
    match r.pool.start? with
    | some (task, pool) => start { r with pool } task
    | none => r.wake

def steps : Nat → Rehearsal → Rehearsal
  | 0, r => r
  | n + 1, r => steps n r.step

/-- Each task starts, is woken and ends at most once, which bounds the number of steps. -/
def settle (r : Rehearsal) : Rehearsal :=
  steps (3 * r.pool.queued.length + 2 * r.pool.running.length + 1) r

def release (r : Rehearsal) (id : String) : Bool × Rehearsal :=
  match r.shut.find? (·.id == id) with
  | some task =>
    (true, { r with
      shut := r.shut.erase task
      ready := if r.pool.running.contains task then r.ready ++ [task] else r.ready })
  | none => (false, r)

/-- Hands a task in and answers whether it was accepted. A new gate opens the one before it of the
same id. -/
def submit (r : Rehearsal) (id : String) (course : Course) : Bool × Rehearsal :=
  let task : Task := ⟨id, course, r.submitted⟩
  let gated := course == .untilReleased
  let r := if gated then (r.release id).2 else r
  let (accepted, pool) := r.pool.submit task
  let shut := if accepted && gated then task :: r.shut else r.shut
  (accepted, { r with pool, shut, submitted := r.submitted + 1 })

def advance (r : Rehearsal) (d : Span) : Rehearsal := { r with now := r.now + d.nanos }

def waitIdle (r : Rehearsal) : Bool × Rehearsal :=
  let r := r.settle
  (r.pool.pending = 0, r)

def shutdown (r : Rehearsal) : Bool × Rehearsal :=
  let r := r.settle
  match r.pool.close? with
  | some pool => (true, { r with pool })
  | none => (false, r)

end Rehearsal

end Gatehouse.Pool
