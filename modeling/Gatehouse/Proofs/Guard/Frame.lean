import Gatehouse.Guard.Basic
import Gatehouse.Proofs.Counter.Action
import Gatehouse.Proofs.Counter.Key

/-! Which keys the guard's programs leave alone. Asking changes nothing that a reader can see;
counting, clearing and lifting touch the keys of the username and of the origin in question and no
others. -/
namespace Gatehouse.Guard

open Counter (Action Key)
open Counter.Action

variable {c : Config} {username origin key : String}

theorem spares_isUserLocked : Spares key (isUserLocked c username) := by
  unfold isUserLocked
  split
  · exact spares_contains _
  · exact spares_pure _

theorem spares_originBlock : Spares key (originBlock c origin) := by
  unfold originBlock
  split
  · refine .bind (spares_contains _) fun blocked => ?_
    split
    · exact .bind (spares_remaining _) fun _ => spares_pure _
    · exact spares_pure _
  · exact spares_pure _

theorem spares_recordUserFailure (hattempts : (Key.userAttempts username).text ≠ key)
    (hlock : (Key.userLock username).text ≠ key) : Spares key (recordUserFailure c username) := by
  unfold recordUserFailure
  split
  · refine .bind (spares_increment hattempts _) fun count => ?_
    split
    · exact .bind (spares_setFlag hlock _) fun _ => .bind (spares_delete hattempts) fun _ =>
        spares_pure _
    · exact spares_pure _
  · exact spares_pure _

theorem spares_recordOriginFailure (hattempts : (Key.originAttempts origin).text ≠ key)
    (hlevel : (Key.originBlockLevel origin).text ≠ key)
    (hblock : (Key.originBlock origin).text ≠ key) :
    Spares key (recordOriginFailure c origin) := by
  unfold recordOriginFailure
  split
  · refine .bind (spares_increment hattempts _) fun count => ?_
    split
    · refine .bind (spares_increment hlevel _) fun level => ?_
      exact .bind (spares_setFlag hblock _) fun _ => .bind (spares_delete hattempts) fun _ =>
        spares_pure _
    · exact spares_pure _
  · exact spares_pure _

theorem spares_recordFailure (huser : Spares key (recordUserFailure c username))
    (horigin : Spares key (recordOriginFailure c origin)) :
    Spares key (recordFailure c username origin) :=
  .bind huser.attempt fun _ => .bind horigin.attempt fun _ => spares_pure _

theorem spares_clearOnSuccess (huser : (Key.userAttempts username).text ≠ key)
    (horigin : (Key.originAttempts origin).text ≠ key)
    (hlevel : (Key.originBlockLevel origin).text ≠ key) :
    Spares key (clearOnSuccess c username origin) := by
  unfold clearOnSuccess
  split
  · refine .bind (spares_delete huser) fun _ => .bind (spares_delete horigin) fun _ => ?_
    split
    · exact .bind (spares_delete hlevel) fun _ => spares_pure _
    · exact spares_pure _
  · exact spares_pure _

theorem spares_unlockUser (hlock : (Key.userLock username).text ≠ key)
    (hattempts : (Key.userAttempts username).text ≠ key) : Spares key (unlockUser username) :=
  .bind (spares_delete hlock) fun _ => .bind (spares_delete hattempts) fun _ => spares_pure _

theorem spares_unblockOrigin (hblock : (Key.originBlock origin).text ≠ key)
    (hattempts : (Key.originAttempts origin).text ≠ key) : Spares key (unblockOrigin origin) :=
  .bind (spares_delete hblock) fun _ => .bind (spares_delete hattempts) fun _ => spares_pure _

end Gatehouse.Guard
