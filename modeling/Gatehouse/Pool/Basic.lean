/-! A pool of workers behind a bounded queue. Jobs start in the order in which they were accepted; a
job that finds the queue full, or the pool closed, is refused and leaves no trace. -/
namespace Gatehouse

namespace Pool

/-- The size of a pool as it is asked for; a part below one counts as one. -/
structure Limits where
  workers : Nat
  capacity : Nat
deriving DecidableEq

namespace Limits

def default : Limits := ⟨2, 1024⟩

def crew (l : Limits) : Nat := max l.workers 1

def slots (l : Limits) : Nat := max l.capacity 1

end Limits

end Pool

structure Pool (Job : Type) where
  limits : Pool.Limits
  /-- Jobs that wait, oldest first. -/
  queued : List Job
  /-- Jobs that run, in the order in which they started. -/
  running : List Job
  closed : Bool
  /-- The number of jobs under way, which is kept apart from the jobs themselves. -/
  inFlight : Nat

namespace Pool

variable {Job State : Type}

def new (limits : Limits) : Pool Job := ⟨limits, [], [], false, 0⟩

def pending (p : Pool Job) : Nat := p.inFlight

def enter (p : Pool Job) : Pool Job := { p with inFlight := p.inFlight + 1 }

def leave (p : Pool Job) : Pool Job := { p with inFlight := p.inFlight - 1 }

/-- Hands a job in and answers whether it was accepted. The job counts as under way at once, and no
longer once it is refused. -/
def submit (p : Pool Job) (job : Job) : Bool × Pool Job :=
  if p.closed ∨ p.limits.slots ≤ p.queued.length then (false, p.enter.leave)
  else (true, { p.enter with queued := p.queued ++ [job] })

def start? (p : Pool Job) : Option (Job × Pool Job) :=
  match p.queued with
  | [] => none
  | job :: rest =>
    if p.running.length < p.limits.crew then
      some (job, { p with queued := rest, running := p.running ++ [job] })
    else none

def finish (p : Pool Job) (position : Nat) : Pool Job :=
  if position < p.running.length then
    { p with running := p.running.eraseIdx position }.leave
  else p

def close? (p : Pool Job) : Option (Pool Job) :=
  if p.pending = 0 then some { p with closed := true } else none

/-- Runs all queued jobs, each of which ends at once, on a state. -/
def drain (p : Pool Job) (run : Job → State → State) (state : State) : State × Pool Job :=
  (p.queued.foldl (fun state job => run job state) state,
    { p with queued := [], inFlight := p.inFlight - p.queued.length })

end Pool

end Gatehouse
