import Gatehouse.Proofs.Guard.Machine
import Gatehouse.Proofs.Guard.Reading
import Gatehouse.Proofs.Guard.Window

/-! Usernames and their locks. For one username the guard is a machine with a window of failures and
the end of a lock: what the counter store does with its keys, at whatever times, shows nothing else.
-/
namespace Gatehouse.Guard

open Counter (Action Key Timed)
open Counter.Action

/-- What the guard knows of a username. -/
structure Lockout where
  window : Option Window
  lock : Option Ending
deriving DecidableEq

namespace Lockout

def start : Lockout := ⟨none, none⟩

def isLocked (l : Lockout) (now : Uptime) : Bool := l.lock.any (·.isAhead now)

/-- A failure, and whether it locks the username. -/
def fail (c : Config) (l : Lockout) (now : Uptime) : Bool × Lockout :=
  let window := Window.next c.userWindow now l.window
  if max c.userThreshold.toNat 1 ≤ window.count then
    (true, ⟨none, some (deadlineAfter now c.lockout)⟩)
  else (false, { l with window := some window })

/-- A call that is about the username, and what it says of it. -/
def act (c : Config) (l : Lockout) (now : Uptime) : Act → Option Bool × Lockout
  | .recordFailure _ _ | .recordUserFailure _ => (some (l.fail c now).1, (l.fail c now).2)
  | .clearOnSuccess _ _ => (none, { l with window := none })
  | .unlockUser _ => (some (l.isLocked now), start)
  | .isUserLocked _ => (some (l.isLocked now), l)
  | .recordOriginFailure _ | .unblockOrigin _ | .originBlock _ => (none, l)

def machine (c : Config) (username : String) : Machine Lockout Bool :=
  .minding (concernsUser username) fun now l => l.act c now

/-! ## The store follows -/

/-- The keys of the username show the window and the lock. -/
structure Tracks (c : Config) (username : String) (t : Timed) (l : Lockout) : Prop where
  window : t.store.Shows t.now (Key.userAttempts username).text
    (l.window.map (Window.slot c.userWindow))
  lock : t.store.Shows t.now (Key.userLock username).text (l.lock.map fun ending => ⟨1, ending⟩)
  below : Window.Below c.userThreshold.toNat l.window

variable {c : Config} {username : String} {t : Timed} {l : Lockout}

theorem tracks_start (now : Uptime) : Tracks c username ⟨now, .empty⟩ start where
  window := Counter.Store.shows_empty
  lock := Counter.Store.shows_empty
  below := Window.below_none

namespace Tracks

theorem isLocked_eq (h : Tracks c username t l) :
    (t.store.live? t.now (Key.userLock username).text).isSome = l.isLocked t.now := by
  rw [h.lock.live?, Option.isSome_filter, Option.any_map]
  rfl

theorem of_spares {α : Type} {a : Action α} (h : Tracks c username t l)
    (hattempts : Spares (Key.userAttempts username).text a)
    (hlock : Spares (Key.userLock username).text a) :
    Tracks c username { t with store := (a.run (.sound t.now) t.store).2 } l where
  window := hattempts.shows h.window
  lock := hlock.shows h.lock
  below := h.below

theorem attempts_ne_lock : (Key.userAttempts username).text ≠ (Key.userLock username).text := by
  simp

theorem fail (hc : c.enabled = true) (h : Tracks c username t l) :
    ((recordUserFailure c username).run (.sound t.now) t.store).1 = .ok (l.fail c t.now).1 ∧
      Tracks c username
        { t with store := ((recordUserFailure c username).run (.sound t.now) t.store).2 }
        (l.fail c t.now).2 := by
  obtain ⟨hcount, hwindow⟩ := Window.increment h.window h.below
  have hlock := h.lock.increment attempts_ne_lock (some c.userWindow)
  -- The guard asks for the threshold and the machine for at least one, which no count tells apart.
  have hreached := Window.max_le_count_iff c.userWindow t.now h.below
  rw [← hcount] at hreached
  rw [run_recordUserFailure c t.now t.store hc username]
  unfold Lockout.fail
  dsimp only
  rw [← hcount]
  split
  · rename_i hthreshold
    rw [if_pos (hreached.mpr hthreshold)]
    refine ⟨rfl, Counter.Store.shows_delete _, ?_, Window.below_none⟩
    exact (Counter.Store.shows_setFlag _ c.lockout).delete attempts_ne_lock
  · rename_i hthreshold
    have hnot := mt hreached.mp hthreshold
    rw [if_neg hnot]
    exact ⟨rfl, hwindow, hlock, Window.below_next h.below (hcount ▸ hnot)⟩

theorem clear (hc : c.enabled = true) (h : Tracks c username t l) (origin : String) :
    Tracks c username
      { t with store := ((clearOnSuccess c username origin).run (.sound t.now) t.store).2 }
      { l with window := none } where
  window := by
    rw [run_clearOnSuccess c t.now t.store hc]
    dsimp only
    have hcleared : ((t.store.delete t.now (Key.userAttempts username).text).2.delete t.now
        (Key.originAttempts origin).text).2.Shows t.now (Key.userAttempts username).text none :=
      (Counter.Store.shows_delete t.store).delete (by simp)
    cases c.resetOnSuccess with
    | false => exact hcleared
    | true => exact hcleared.delete (by simp)
  lock := (spares_clearOnSuccess (by simp) (by simp) (by simp)).shows h.lock
  below := Window.below_none

theorem unlock (h : Tracks c username t l) :
    ((unlockUser username).run (.sound t.now) t.store).1 = .ok (l.isLocked t.now) ∧
      Tracks c username { t with store := ((unlockUser username).run (.sound t.now) t.store).2 }
        start := by
  rw [run_unlockUser t.now t.store username, h.isLocked_eq]
  refine ⟨rfl, ?_, ?_, Window.below_none⟩
  · exact Counter.Store.shows_delete _
  · exact (Counter.Store.shows_delete t.store).delete attempts_ne_lock

/-- A call about the username says what the machine says. -/
theorem act (hc : c.enabled = true) (h : Tracks c username t l) {a : Act}
    (ha : a.username? = some username) :
    ((a.action c).run (.sound t.now) t.store).1.map Reply.user = .ok (l.act c t.now a).1 ∧
      Tracks c username { t with store := ((a.action c).run (.sound t.now) t.store).2 }
        (l.act c t.now a).2 := by
  cases a with
  | recordFailure u origin =>
    obtain rfl : u = username := Option.some.inj ha
    obtain ⟨hanswer, htracks⟩ := h.fail hc
    refine ⟨?_, htracks.of_spares (spares_recordOriginFailure (by simp) (by simp) (by simp))
      (spares_recordOriginFailure (by simp) (by simp) (by simp))⟩
    simp only [Act.action, run_bind_pure, run_recordFailure, hanswer]
    rfl
  | recordUserFailure u =>
    obtain rfl : u = username := Option.some.inj ha
    obtain ⟨hanswer, htracks⟩ := h.fail hc
    simp only [Act.action, run_bind_pure, hanswer]
    exact ⟨rfl, htracks⟩
  | clearOnSuccess u origin =>
    obtain rfl : u = username := Option.some.inj ha
    have hanswer : ((clearOnSuccess c u origin).run (.sound t.now) t.store).1 = .ok () := by
      rw [run_clearOnSuccess c t.now t.store hc]
    simp only [Act.action, run_bind_pure, hanswer]
    exact ⟨rfl, h.clear hc origin⟩
  | unlockUser u =>
    obtain rfl : u = username := Option.some.inj ha
    obtain ⟨hanswer, htracks⟩ := h.unlock
    simp only [Act.action, run_bind_pure, hanswer]
    exact ⟨rfl, htracks⟩
  | isUserLocked u =>
    obtain rfl : u = username := Option.some.inj ha
    have hanswer : ((isUserLocked c u).run (.sound t.now) t.store).1 = .ok (l.isLocked t.now) := by
      rw [run_isUserLocked, if_pos hc, h.isLocked_eq]
    simp only [Act.action, run_bind_pure, hanswer]
    exact ⟨rfl, h.of_spares spares_isUserLocked spares_isUserLocked⟩
  | _ => contradiction

theorem other (h : Tracks c username t l) {a : Act} (ha : a.username? ≠ some username) :
    Tracks c username { t with store := ((a.action c).run (.sound t.now) t.store).2 } l := by
  have huser (key : Key) (hkey : key = .userAttempts username ∨ key = .userLock username)
      (u : String) (hu : a.username? = some u) :
      .userAttempts u ≠ key ∧ .userLock u ≠ key := by
    have hne : u ≠ username := fun heq => ha (heq ▸ hu)
    rcases hkey with rfl | rfl
    · simp [hne]
    · simp [hne]
  exact h.of_spares (spares_action (huser _ (.inl rfl)) (by simp))
    (spares_action (huser _ (.inr rfl)) (by simp))

theorem follows (hc : c.enabled = true) :
    (machine c username).Follows c (about (concernsUser username) Reply.user)
      (Tracks c username) := by
  apply Machine.follows_minding
  case hact => exact fun t l a h ha => h.act hc (of_decide_eq_true ha)
  case hother => exact fun t l a h ha => h.other (of_decide_eq_false ha)
  case hpurge => exact fun t l h => ⟨h.window.purge, h.lock.purge, h.below⟩
  case hlater => exact fun t l later h hle => ⟨h.window.of_le hle, h.lock.of_le hle, h.below⟩

end Tracks

/-- What the guard says of a username, in any run over a store that was empty at first, is what the
machine of the username says. -/
theorem answers_about_user (c : Config) (hc : c.enabled = true) (username : String) (now : Uptime)
    (events : List Event) :
    Guard.answers c (about (concernsUser username) Reply.user) ⟨now, .empty⟩ events =
      ((machine c username).answers now start events).map .ok :=
  (Tracks.follows hc).answers_eq (tracks_start now) events

/-- Failures of anyone else do not count; five of the username lock it for a quarter of an hour. -/
theorem answers_about_alice :
    Config.default.enabled = true ∧
      Guard.answers .default (about (concernsUser "alice") Reply.user) ⟨0, .empty⟩
          [.act (.recordFailure "alice" "here"), .act (.recordUserFailure "alice"),
            .act (.recordFailure "bob" "here"), .purge, .act (.recordFailure "alice" "there"),
            .act (.recordUserFailure "alice"), .act (.isUserLocked "alice"),
            .act (.recordUserFailure "alice"), .advance (.ofSeconds 899),
            .act (.isUserLocked "alice"), .advance (.ofSeconds 1), .act (.isUserLocked "alice")] =
        [some false, some false, none, none, some false, some false, some false, some true, none,
          some true, none, some false].map .ok := by
  refine ⟨rfl, ?_⟩
  rw [answers_about_user .default rfl]
  exact congrArg (List.map Except.ok) (by decide +kernel)

end Lockout

end Gatehouse.Guard
