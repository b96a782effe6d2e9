import Gatehouse.Proofs.Guard.Extension
import Gatehouse.Proofs.Guard.Halves

/-! The order of the bookkeeping. Failed attempts that are recorded at one time may come in any
order: for each side they are as many records of its own failure as name it, one after another,
whatever stands in between. -/
namespace Gatehouse.Guard

open Counter (Agree Key Store Timed)

/-- A username and an origin for each failed attempt. -/
def attempts (jobs : List (String × String)) : List Event :=
  jobs.map fun job => .act (.recordFailure job.1 job.2)

namespace Side

/-- The length of a sanction of the side that a reply tells of. -/
def sanction (c : Config) : Side → Reply → Option Span
  | user _, r => if r.user = some true then some c.lockout else none
  | origin _, r => r.origin.bind OriginAnswer.newBlock

/-- The lengths of the sanctions that failures of the side have brought, in their order. -/
def sanctions (c : Config) (side : Side) (entries : List Entry) : List Span :=
  entries.filterMap fun entry =>
    if side.isFailure entry.event then entry.reply.toOption.bind (side.sanction c) else none

/-- A number of failures of the side and of no one else. -/
def alone (c : Config) (side : Side) (now : Uptime) : Nat → Store → List Span × Store
  | 0, store => ([], store)
  | n + 1, store =>
    let first := (side.half c).run (.sound now) store
    let rest := side.alone c now n first.2
    ((first.1.toOption.getD none).toList ++ rest.1, rest.2)

variable {c : Config} {side : Side} {t : Timed} {store : Store} {username origin : String}

theorem isFailure_recordFailure :
    side.isFailure (.act (.recordFailure username origin)) = true ↔
      side = user username ∨ side = .origin origin := by
  cases side <;> simp [isFailure, eq_comm]

theorem store_attempt :
    (step c t (.act (.recordFailure username origin))).2.store =
      ((recordFailure c username origin).run (.sound t.now) t.store).2 := by
  simp only [step, Act.action, Counter.Action.run_bind_pure]

theorem sanction_attempt (h : side = user username ∨ side = .origin origin) :
    (step c t (.act (.recordFailure username origin))).1.toOption.bind (side.sanction c) =
      ((side.half c).run (.sound t.now) t.store).1.toOption.getD none := by
  simp only [step, Act.action, Counter.Action.run_bind_pure, answer_recordFailure]
  rcases h with rfl | rfl
  · have hhalf : ((user username).half c).run (.sound t.now) t.store = _ :=
      Counter.Action.run_bind_pure (recordUserFailure c username) fun locked =>
        if locked then some c.lockout else none
    rw [hhalf]
    rcases ((recordUserFailure c username).run (.sound t.now) t.store).1 with _ | _ | _
    · rfl
    · rfl
    · rfl
  · rfl

/-- What an attempt means to a side is told by the keys of the side. -/
theorem attempt_congr (hagree : Agree side.owns t.now t.store store)
    (h : side = user username ∨ side = .origin origin) :
    let next := step c t (.act (.recordFailure username origin))
    let half := (side.half c).run (.sound t.now) store
    next.1.toOption.bind (side.sanction c) = half.1.toOption.getD none ∧
      Agree side.owns t.now next.2.store half.2 := by
  obtain ⟨hanswer, hafter⟩ := run_half_congr (c := c) (.refl (.sound t.now)) hagree
  refine ⟨?_, ?_⟩
  · rw [sanction_attempt h, hanswer]
  · rw [store_attempt]
    exact (agree_recordFailure h).trans hafter

theorem agree_attempt_of_other (h : ¬(side = user username ∨ side = .origin origin)) :
    Agree side.owns t.now (step c t (.act (.recordFailure username origin))).2.store t.store := by
  rw [store_attempt, store_recordFailure]
  have hfirst : user username ≠ side := fun heq => h (.inl heq.symm)
  have hsecond : Side.origin origin ≠ side := fun heq => h (.inr heq.symm)
  exact (agree_half hsecond (.sound t.now) _).trans (agree_half hfirst (.sound t.now) t.store)

theorem sanctions_cons (entry : Entry) (rest : List Entry) :
    side.sanctions c (entry :: rest) =
      (if side.isFailure entry.event then entry.reply.toOption.bind (side.sanction c)
        else none).toList ++ side.sanctions c rest := by
  unfold sanctions
  rw [List.filterMap_cons]
  split
  · rename_i h
    rw [h]
    rfl
  · rename_i d h
    rw [h]
    rfl

/-- Of the attempts only those that name a side matter to it. -/
theorem sanctions_record (hagree : Agree side.owns t.now t.store store)
    (jobs : List (String × String)) :
    let lone := side.alone c t.now ((attempts jobs).countP side.isFailure) store
    side.sanctions c (record c t (attempts jobs)) = lone.1 ∧
      Agree side.owns t.now (after c t (attempts jobs)).store lone.2 := by
  induction jobs generalizing t store with
  | nil => exact ⟨rfl, hagree⟩
  | cons job rest ih =>
    let e : Event := .act (.recordFailure job.1 job.2)
    have hrecord : side.sanctions c (record c t (attempts (job :: rest))) = _ :=
      sanctions_cons ⟨t.now, e, (step c t e).1⟩ (record c (step c t e).2 (attempts rest))
    have hafter : after c t (attempts (job :: rest)) = after c (step c t e).2 (attempts rest) := rfl
    have hcount : (attempts (job :: rest)).countP side.isFailure =
        (attempts rest).countP side.isFailure + if side.isFailure e then 1 else 0 :=
      List.countP_cons
    rw [hrecord, hafter, hcount]
    by_cases hnamed : side = user job.1 ∨ side = .origin job.2
    · have hfailure : side.isFailure e = true := isFailure_recordFailure.mpr hnamed
      obtain ⟨hsanction, hagree⟩ := attempt_congr (c := c) hagree hnamed
      obtain ⟨hrest, hstore⟩ := ih (t := (step c t e).2) hagree
      rw [if_pos hfailure, if_pos hfailure, hsanction, hrest]
      exact ⟨rfl, hstore⟩
    · -- An attempt that names others is not seen on the keys of this side.
      have hfailure : ¬side.isFailure e = true := mt isFailure_recordFailure.mp hnamed
      obtain ⟨hrest, hstore⟩ := ih (t := (step c t e).2)
        ((agree_attempt_of_other hnamed).trans hagree)
      rw [if_neg hfailure, if_neg hfailure, hrest]
      exact ⟨rfl, hstore⟩

theorem live?_attempts_of_foreign {key : String}
    (hkey : ∀ (side : Side) (k : Key), side.owns k = true → k.text ≠ key)
    (jobs : List (String × String)) {later : Uptime} (hlater : t.now ≤ later) :
    (after c t (attempts jobs)).store.live? later key = t.store.live? later key := by
  induction jobs generalizing t with
  | nil => rfl
  | cons job rest ih =>
    have hspares (side : Side) : Counter.Action.Spares key (side.half c) := by
      rw [← action_script]
      exact (within_script c side).spares (hkey side)
    let e : Event := .act (.recordFailure job.1 job.2)
    have hstep : (step c t e).2.store.live? later key = t.store.live? later key := by
      rw [store_attempt, store_recordFailure]
      exact (hspares _ (.sound t.now) _ later hlater).trans
        (hspares _ (.sound t.now) t.store later hlater)
    exact (ih (t := (step c t e).2) hlater).trans hstep

end Side

/-- Failed attempts that are recorded at one time can be recorded in any order: the same is stored
in the end, and each username and origin has come under as many sanctions, of the same lengths. -/
theorem outcomes_of_perm (c : Config) (t : Timed) {jobs jobs' : List (String × String)}
    (h : jobs.Perm jobs') :
    (after c t (attempts jobs)).store.SeenAs t.now (after c t (attempts jobs')).store ∧
      ∀ side : Side, side.sanctions c (record c t (attempts jobs)) =
        side.sanctions c (record c t (attempts jobs')) := by
  have hcount (side : Side) : (attempts jobs).countP side.isFailure =
      (attempts jobs').countP side.isFailure := (h.map _).countP_eq side.isFailure
  refine ⟨fun later hlater key => ?_, fun side => ?_⟩
  · by_cases hkey : ∃ (side : Side) (k : Key), side.owns k = true ∧ k.text = key
    · obtain ⟨side, k, hk, rfl⟩ := hkey
      obtain ⟨-, hagree⟩ := side.sanctions_record (c := c) (.refl t.store) jobs
      obtain ⟨-, hagree'⟩ := side.sanctions_record (c := c) (.refl t.store) jobs'
      rw [hagree k hk later hlater, hagree' k hk later hlater, hcount side]
    · have hforeign (side : Side) (k : Key) (hk : side.owns k = true) : k.text ≠ key :=
        fun htext => hkey ⟨side, k, hk, htext⟩
      rw [Side.live?_attempts_of_foreign hforeign jobs hlater,
        Side.live?_attempts_of_foreign hforeign jobs' hlater]
  · rw [(side.sanctions_record (.refl t.store) jobs).1, hcount side,
      (side.sanctions_record (.refl t.store) jobs').1]

/-- Three failures from one origin, each of which blocks it for twice as long as the last, and two
of them of a username that is locked by the second. -/
theorem sanctions_either_way :
    let c := (Config.default.withUserLimits 2 (.ofSeconds 60) (.ofSeconds 300)).withOriginLimits 1
      (.ofSeconds 60) (.ofSeconds 60)
    let jobs := [("alice", "here"), ("bob", "here"), ("alice", "here")]
    let jobs' := [("bob", "here"), ("alice", "here"), ("alice", "here")]
    let t : Timed := ⟨0, .empty⟩
    jobs.Perm jobs' ∧
      (Side.origin "here").sanctions c (record c t (attempts jobs)) =
        [.ofSeconds 60, .ofSeconds 120, .ofSeconds 240] ∧
      (Side.user "alice").sanctions c (record c t (attempts jobs)) = [.ofSeconds 300] ∧
      (after c t (attempts jobs)).store.SeenAs 0 (after c t (attempts jobs')).store ∧
      ∀ side : Side, side.sanctions c (record c t (attempts jobs)) =
        side.sanctions c (record c t (attempts jobs')) := by
  intro c jobs jobs' t
  have hperm : jobs.Perm jobs' := .swap _ _ _
  obtain ⟨hstore, hsanctions⟩ := outcomes_of_perm c t hperm
  exact ⟨hperm, by decide +kernel, by decide +kernel, hstore, hsanctions⟩

end Gatehouse.Guard
