import Gatehouse.Proofs.Counter.Agreement
import Gatehouse.Proofs.Guard.Machine

/-! What the guard does to the names of one party. Of a call that names the party, the part about
the party depends only on the party's own keys, also where the call names someone else besides; a
call that does not name it leaves those keys alone. -/
namespace Gatehouse

open Counter (Action Ends Key)

/-- Some usernames, origins and ids of tokens. -/
structure Party where
  user : String → Bool
  origin : String → Bool
  jti : String → Bool

/-- The keys that are built from the party's names. -/
def Party.owns (P : Party) : Key → Bool
  | .userAttempts username | .userLock username => P.user username
  | .originAttempts origin | .originBlock origin | .originBlockLevel origin => P.origin origin
  | .revoked jti => P.jti jti

namespace Guard

open Counter.Action

variable {P : Party} {c : Config} {username origin : String}

theorem alike_isUserLocked : Alike P.owns (fun x y => P.user username = true → x = y)
    (isUserLocked c username) (isUserLocked c username) := by
  unfold isUserLocked
  split
  · exact alike_contains (.userLock username)
  · exact alike_pure fun _ => rfl

theorem alike_originBlock (h : P.origin origin = true) :
    Alike P.owns Eq (originBlock c origin) (originBlock c origin) := by
  unfold originBlock
  split
  · refine .bind (alike_contains (.originBlock origin)) fun x y hxy => ?_
    cases hxy h
    split
    · refine .bind (alike_remaining (.originBlock origin)) fun x y hxy => ?_
      cases hxy h
      exact alike_pure rfl
    · exact alike_pure rfl
  · exact alike_pure rfl

theorem alike_recordUserFailure (h : P.user username = true) :
    Alike P.owns Eq (recordUserFailure c username) (recordUserFailure c username) := by
  unfold recordUserFailure
  split
  · refine .bind (alike_increment (.userAttempts username) _) fun x y hxy => ?_
    cases hxy h
    split
    · exact .bind (alike_setFlag (.userLock username) _) fun _ _ _ =>
        .bind (alike_delete (.userAttempts username)) fun _ _ _ => alike_pure rfl
    · exact alike_pure rfl
  · exact alike_pure rfl

theorem alike_recordOriginFailure (h : P.origin origin = true) :
    Alike P.owns Eq (recordOriginFailure c origin) (recordOriginFailure c origin) := by
  unfold recordOriginFailure
  split
  · refine .bind (alike_increment (.originAttempts origin) _) fun x y hxy => ?_
    cases hxy h
    split
    · refine .bind (alike_increment (.originBlockLevel origin) none) fun x y hxy => ?_
      cases hxy h
      exact .bind (alike_setFlag (.originBlock origin) _) fun _ _ _ =>
        .bind (alike_delete (.originAttempts origin)) fun _ _ _ => alike_pure rfl
    · exact alike_pure rfl
  · exact alike_pure rfl

theorem spares_recordUserFailure_of_foreign (h : P.user username = false) (key : Key)
    (hkey : P.owns key = true) : Spares key.text (recordUserFailure c username) := by
  refine spares_recordUserFailure ?_ ?_ <;> rw [ne_eq, Key.text_inj] <;> rintro rfl <;>
    exact Bool.false_ne_true (h.symm.trans hkey)

theorem spares_recordOriginFailure_of_foreign (h : P.origin origin = false) (key : Key)
    (hkey : P.owns key = true) : Spares key.text (recordOriginFailure c origin) := by
  refine spares_recordOriginFailure ?_ ?_ ?_ <;> rw [ne_eq, Key.text_inj] <;> rintro rfl <;>
    exact Bool.false_ne_true (h.symm.trans hkey)

/-- Each side of a failure is counted by its own keys. -/
theorem alike_recordFailure : Alike P.owns (fun x y =>
    (P.user username = true → x.userLocked = y.userLocked) ∧
      (P.origin origin = true → x.originBlockedFor = y.originBlockedFor))
    (recordFailure c username origin) (recordFailure c username origin) := by
  have huser : Alike P.owns (fun x y => P.user username = true → Ends Eq x y)
      (recordUserFailure c username).attempt (recordUserFailure c username).attempt := by
    cases h : P.user username with
    | true => exact (alike_recordUserFailure h).attempt.mono fun _ _ hxy _ => hxy
    | false =>
      have hspares := spares_recordUserFailure_of_foreign (c := c) h
      exact (alike_attempt_of_spares hspares hspares).mono fun _ _ _ hown => nomatch hown
  have horigin : Alike P.owns (fun x y => P.origin origin = true → Ends Eq x y)
      (recordOriginFailure c origin).attempt (recordOriginFailure c origin).attempt := by
    cases h : P.origin origin with
    | true => exact (alike_recordOriginFailure h).attempt.mono fun _ _ hxy _ => hxy
    | false =>
      have hspares := spares_recordOriginFailure_of_foreign (c := c) h
      exact (alike_attempt_of_spares hspares hspares).mono fun _ _ _ hown => nomatch hown
  refine .bind huser fun x y hxy => .bind horigin fun x' y' hxy' => alike_pure ⟨?_, ?_⟩
  · intro h
    rw [(hxy h).eq]
  · intro h
    rw [(hxy' h).eq]

theorem alike_clearOnSuccess : Alike P.owns (fun _ _ => True)
    (clearOnSuccess c username origin) (clearOnSuccess c username origin) := by
  unfold clearOnSuccess
  split
  · refine .bind (alike_delete (.userAttempts username)) fun _ _ _ =>
      .bind (alike_delete (.originAttempts origin)) fun _ _ _ => ?_
    split
    · exact .bind (alike_delete (.originBlockLevel origin)) fun _ _ _ => alike_pure trivial
    · exact alike_pure trivial
  · exact alike_pure trivial

theorem alike_unlockUser : Alike P.owns (fun x y => P.user username = true → x = y)
    (unlockUser username) (unlockUser username) :=
  .bind (alike_delete (.userLock username)) fun _ _ hxy =>
    .bind (alike_delete (.userAttempts username)) fun _ _ _ => alike_pure hxy

theorem alike_unblockOrigin : Alike P.owns (fun x y => P.origin origin = true → x = y)
    (unblockOrigin origin) (unblockOrigin origin) :=
  .bind (alike_delete (.originBlock origin)) fun _ _ hxy =>
    .bind (alike_delete (.originAttempts origin)) fun _ _ _ => alike_pure hxy

/-! ## Any call of the guard -/

def Act.touches (P : Party) (a : Act) : Bool := a.username?.any P.user || a.origin?.any P.origin

/-- The part of a reply that is about the party. -/
def Act.heard (P : Party) (a : Act) (r : Reply) : Reply :=
  ⟨if a.username?.any P.user then r.user else none,
    if a.origin?.any P.origin then r.origin else none⟩

theorem alike_action {a : Act} (h : a.touches P = true) :
    Alike P.owns (fun x y => a.heard P x = a.heard P y) (a.action c) (a.action c) := by
  have huser {username : String} (hname : a.username? = some username) (hno : a.origin? = none) :
      P.user username = true := by
    simpa [Act.touches, hname, hno] using h
  have horigin {origin : String} (hno : a.username? = none) (hname : a.origin? = some origin) :
      P.origin origin = true := by
    simpa [Act.touches, hname, hno] using h
  cases a with
  | recordFailure username origin =>
    refine .bind alike_recordFailure fun x y hxy => alike_pure ?_
    cases hu : P.user username <;> cases ho : P.origin origin <;>
      simp [Act.heard, Act.username?, Act.origin?, hu, ho, hxy.1, hxy.2]
  | recordUserFailure username =>
    refine .bind (alike_recordUserFailure (huser rfl rfl)) fun x y hxy => alike_pure ?_
    rw [hxy]
  | recordOriginFailure origin =>
    refine .bind (alike_recordOriginFailure (horigin rfl rfl)) fun x y hxy => alike_pure ?_
    rw [hxy]
  | clearOnSuccess username origin => exact .bind alike_clearOnSuccess fun _ _ _ => alike_pure rfl
  | unlockUser username =>
    refine .bind alike_unlockUser fun x y hxy => alike_pure ?_
    rw [hxy (huser rfl rfl)]
  | unblockOrigin origin =>
    refine .bind alike_unblockOrigin fun x y hxy => alike_pure ?_
    rw [hxy (horigin rfl rfl)]
  | isUserLocked username =>
    refine .bind alike_isUserLocked fun x y hxy => alike_pure ?_
    rw [hxy (huser rfl rfl)]
  | originBlock origin =>
    refine .bind (alike_originBlock (horigin rfl rfl)) fun x y hxy => alike_pure ?_
    rw [hxy]

theorem spares_action_of_foreign {a : Act} (h : a.touches P = false) (key : Key)
    (hkey : P.owns key = true) : Spares key.text (a.action c) := by
  obtain ⟨huser, horigin⟩ := Bool.or_eq_false_iff.mp h
  apply spares_action
  · intro username hname
    rw [hname, Option.any_some] at huser
    refine ⟨?_, ?_⟩ <;> rintro rfl <;> exact Bool.false_ne_true (huser.symm.trans hkey)
  · intro origin hname
    rw [hname, Option.any_some] at horigin
    refine ⟨?_, ?_, ?_⟩ <;> rintro rfl <;> exact Bool.false_ne_true (horigin.symm.trans hkey)

end Guard

end Gatehouse
