import Gatehouse.Guard.Basic
import Gatehouse.Proofs.Counter.Action

/-! What the guard says and does while the counter store works: a lock or a block is in force as
long as its key is seen, and a guard that is switched off says nothing. -/
namespace Gatehouse.Guard

open Counter (Action Context Key Store)
open Counter.Action

variable (c : Config) (now : Uptime) (store : Store)

theorem run_contains (key : String) :
    (contains key).run (.sound now) store =
      (.ok (store.live? now key).isSome, store.settle now key) := by
  unfold contains
  rw [run_call]
  rfl

theorem run_isUserLocked (username : String) :
    (isUserLocked c username).run (.sound now) store =
      if c.enabled then
        (.ok (store.live? now (Key.userLock username).text).isSome,
          store.settle now (Key.userLock username).text)
      else (.ok false, store) := by
  unfold isUserLocked
  split
  · exact run_contains now store _
  · rfl

/-- The block of an origin as its key shows it. -/
def blockOf (now : Uptime) (store : Store) (origin : String) : OriginBlock :=
  match store.live? now (Key.originBlock origin).text with
  | none => .none
  | some slot => ⟨true, slot.remaining now⟩

theorem run_originBlock (origin : String) :
    (originBlock c origin).run (.sound now) store =
      if c.enabled then
        (.ok (blockOf now store origin), store.settle now (Key.originBlock origin).text)
      else (.ok .none, store) := by
  unfold originBlock
  split
  · unfold blockOf
    rw [run_bind, run_contains]
    cases hlive : store.live? now (Key.originBlock origin).text with
    | none => rfl
    | some slot =>
      have hsettle : store.settle now (Key.originBlock origin).text = store := by
        unfold Store.settle
        rw [hlive]
      simp only [Option.isSome_some, if_true, run_bind, hsettle]
      unfold remaining
      rw [run_call]
      simp only [Context.sound, Store.remaining, hlive, hsettle]
      rfl
  · rfl

/-! ## Counting, clearing and lifting -/

theorem run_recordUserFailure (h : c.enabled = true) (username : String) :
    (recordUserFailure c username).run (.sound now) store =
      let counted := store.increment now (Key.userAttempts username).text (some c.userWindow)
      if c.userThreshold.toNat ≤ counted.1 then
        (.ok true, ((counted.2.setFlag now (Key.userLock username).text c.lockout).delete now
          (Key.userAttempts username).text).2)
      else (.ok false, counted.2) := by
  unfold recordUserFailure
  rw [if_pos h, run_bind]
  unfold increment
  rw [run_call_sound]
  dsimp only
  split
  · rfl
  · rfl

theorem run_recordOriginFailure (h : c.enabled = true) (origin : String) :
    (recordOriginFailure c origin).run (.sound now) store =
      let counted := store.increment now (Key.originAttempts origin).text (some c.originWindow)
      if c.originThreshold.toNat ≤ counted.1 then
        let raised := counted.2.increment now (Key.originBlockLevel origin).text none
        let duration := c.blockDuration raised.1
        (.ok (some duration),
          ((raised.2.setFlag now (Key.originBlock origin).text duration).delete now
            (Key.originAttempts origin).text).2)
      else (.ok none, counted.2) := by
  unfold recordOriginFailure
  rw [if_pos h, run_bind]
  unfold increment
  rw [run_call_sound]
  dsimp only
  split
  · rfl
  · rfl

/-- Each half is counted in what the other half left, and an error counts as no sanction. -/
theorem run_recordFailure (context : Context) (username origin : String) :
    (recordFailure c username origin).run context store =
      let user := (recordUserFailure c username).run context store
      let origin := (recordOriginFailure c origin).run context user.2
      (.ok ⟨user.1.toOption.getD false, origin.1.toOption.getD none⟩, origin.2) := rfl

theorem run_clearOnSuccess (h : c.enabled = true) (username origin : String) :
    (clearOnSuccess c username origin).run (.sound now) store =
      let cleared := ((store.delete now (Key.userAttempts username).text).2.delete now
        (Key.originAttempts origin).text).2
      (.ok (), if c.resetOnSuccess then
        (cleared.delete now (Key.originBlockLevel origin).text).2 else cleared) := by
  unfold clearOnSuccess
  rw [if_pos h]
  cases c.resetOnSuccess <;> rfl

theorem run_unlockUser (username : String) :
    (unlockUser username).run (.sound now) store =
      (.ok (store.live? now (Key.userLock username).text).isSome,
        ((store.delete now (Key.userLock username).text).2.delete now
          (Key.userAttempts username).text).2) := rfl

theorem run_unblockOrigin (origin : String) :
    (unblockOrigin origin).run (.sound now) store =
      (.ok (store.live? now (Key.originBlock origin).text).isSome,
        ((store.delete now (Key.originBlock origin).text).2.delete now
          (Key.originAttempts origin).text).2) := rfl

end Gatehouse.Guard
