import Gatehouse.Proofs.Guard.Blocking
import Gatehouse.Proofs.Guard.Lockout

/-! How long sanctions last. A lock holds to the end that it was given, whatever happens in between,
unless the username is unlocked. So does a block, unless the origin is unblocked or a success is
recorded for it: failures during the block put another in its place, which ends no sooner since the
level has only risen. -/
namespace Gatehouse.Guard

/-- At every time before an instant the end is still ahead. -/
def Ending.Reaches (ending : Ending) (instant : Uptime) : Prop :=
  ∀ now, now < instant → ending.isAhead now = true

theorem reaches_deadlineAfter {now instant : Uptime} {d : Span} (h : instant ≤ now + d.nanos) :
    Ending.Reaches (deadlineAfter now d) instant := by
  intro time htime
  unfold deadlineAfter
  split
  · exact decide_eq_true (Nat.lt_of_lt_of_le htime h)
  · rfl

variable {c : Config} {now instant : Uptime}

/-! ## Locks -/

namespace Lockout

variable {l : Lockout} {username : String}

def LocksTo (l : Lockout) (instant : Uptime) : Prop :=
  ∃ ending, l.lock = some ending ∧ Ending.Reaches ending instant

theorem LocksTo.isLocked (h : l.LocksTo instant) (hnow : now < instant) :
    l.isLocked now = true := by
  obtain ⟨ending, hlock, hreaches⟩ := h
  unfold Lockout.isLocked
  rw [hlock]
  exact hreaches now hnow

theorem locksTo_fail (h : (l.fail c now).1 = true) (hinstant : instant ≤ now + c.lockout.nanos) :
    (l.fail c now).2.LocksTo instant := by
  unfold fail at h ⊢
  dsimp only at h ⊢
  split at h
  · rename_i hreached
    rw [if_pos hreached]
    exact ⟨_, rfl, reaches_deadlineAfter hinstant⟩
  · contradiction

theorem LocksTo.fail (h : l.LocksTo instant) (hinstant : instant ≤ now + c.lockout.nanos) :
    (l.fail c now).2.LocksTo instant := by
  cases hlocks : (l.fail c now).1 with
  | true => exact locksTo_fail hlocks hinstant
  | false =>
    unfold Lockout.fail at hlocks ⊢
    dsimp only at hlocks ⊢
    split at hlocks
    · contradiction
    · rename_i hreached
      rw [if_neg hreached]
      exact h

theorem LocksTo.step (h : l.LocksTo instant) (hinstant : instant ≤ now + c.lockout.nanos)
    {e : Event} (he : e ≠ .act (.unlockUser username)) :
    ((machine c username).step now l e).2.LocksTo instant := by
  apply Machine.minding_step (P := fun next : Lockout => next.LocksTo instant) h
  rintro a rfl ha
  cases a with
  | recordFailure u origin => exact h.fail hinstant
  | recordUserFailure u => exact h.fail hinstant
  | unlockUser u =>
    obtain rfl : u = username := Option.some.inj (of_decide_eq_true ha)
    exact absurd rfl he
  | _ => exact h

end Lockout

/-! ## Blocks -/

namespace Blocking

variable {b : Blocking} {origin : String} {d : Span}

/-- The origin is blocked to an instant, and its next block will not be shorter than `d`. -/
structure BlocksTo (c : Config) (b : Blocking) (instant : Uptime) (d : Span) : Prop where
  block : ∃ ending, b.block = some ending ∧ Ending.Reaches ending instant
  level : d.nanos ≤ (c.blockDuration ((b.level + 1 : Nat) : Int)).nanos

theorem BlocksTo.isBlocked (h : b.BlocksTo c instant d) (hnow : now < instant) :
    b.isBlocked now = true := by
  obtain ⟨ending, hblock, hreaches⟩ := h.block
  unfold Blocking.isBlocked
  rw [hblock]
  exact hreaches now hnow

theorem block_fail (c : Config) (b : Blocking) (now : Uptime) :
    (b.fail c now).2.block = match (b.fail c now).1 with
      | some d => some (deadlineAfter now d)
      | none => b.block := by
  unfold fail
  dsimp only
  split
  · rfl
  · rfl

theorem le_blockDuration_raised {level : Nat}
    (h : d.nanos ≤ (c.blockDuration (level + 1 : Nat)).nanos) :
    d.nanos ≤ (c.blockDuration (min (level + 1) Counter.ceiling + 1 : Nat)).nanos := by
  rw [c.blockDuration_min]
  exact Nat.le_trans h (c.blockDuration_mono (by omega))

theorem blocksTo_fail (h : (b.fail c now).1 = some d) (hinstant : instant ≤ now + d.nanos) :
    (b.fail c now).2.BlocksTo c instant d where
  block := ⟨_, (block_fail c b now).trans (by rw [h]), reaches_deadlineAfter hinstant⟩
  level := by
    have hclimbs := climbs_fail c b now
    rw [h] at hclimbs
    obtain ⟨hlevel, hd⟩ := hclimbs
    rw [hlevel]
    exact le_blockDuration_raised (hd ▸ Nat.le_refl _)

theorem BlocksTo.fail (h : b.BlocksTo c instant d) (hinstant : instant ≤ now + d.nanos) :
    (b.fail c now).2.BlocksTo c instant d := by
  have hclimbs := climbs_fail c b now
  have hblock := block_fail c b now
  cases hanswer : (b.fail c now).1 with
  | none =>
    rw [hanswer] at hclimbs hblock
    have hlevel : (b.fail c now).2.level = b.level := hclimbs
    exact ⟨hblock ▸ h.block, hlevel ▸ h.level⟩
  | some next =>
    rw [hanswer] at hclimbs hblock
    obtain ⟨hlevel, hnext⟩ := hclimbs
    have hlonger : d.nanos ≤ next.nanos := hnext ▸ h.level
    refine ⟨⟨_, hblock, reaches_deadlineAfter ?_⟩, hlevel ▸ le_blockDuration_raised h.level⟩
    exact Nat.le_trans hinstant (Nat.add_le_add_left hlonger now)

theorem BlocksTo.step (h : b.BlocksTo c instant d) (hinstant : instant ≤ now + d.nanos)
    {e : Event} (hunblock : e ≠ .act (.unblockOrigin origin))
    (hclear : ∀ username, e ≠ .act (.clearOnSuccess username origin)) :
    ((machine c origin).step now b e).2.BlocksTo c instant d := by
  apply Machine.minding_step (P := fun next : Blocking => next.BlocksTo c instant d) h
  rintro a rfl ha
  cases a with
  | recordFailure username o => exact h.fail hinstant
  | recordOriginFailure o => exact h.fail hinstant
  | clearOnSuccess username o =>
    obtain rfl : o = origin := Option.some.inj (of_decide_eq_true ha)
    exact absurd rfl (hclear username)
  | unblockOrigin o =>
    obtain rfl : o = origin := Option.some.inj (of_decide_eq_true ha)
    exact absurd rfl hunblock
  | _ => exact h

end Blocking

end Gatehouse.Guard
