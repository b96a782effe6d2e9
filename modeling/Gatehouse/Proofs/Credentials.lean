import Gatehouse.Credentials
import Gatehouse.Proofs.Text.Blank

/-! What passes the checks of credentials, and what is said against the rest. A login request is
told by its characters: those of the username without the blanks around it, and the number of those
of the password. The password is looked at only if nothing is wrong with the username. -/
namespace Gatehouse

/-- A letter or digit of ASCII, or one of a few marks. -/
def IsNameChar (c : Char) : Prop :=
  'A' ≤ c ∧ c ≤ 'Z' ∨ 'a' ≤ c ∧ c ≤ 'z' ∨ '0' ≤ c ∧ c ≤ '9' ∨ c ∈ ['.', '_', '@', '+', '-']

/-- A username that may be looked up. -/
structure IsUsername (name : String) : Prop where
  one_le : 1 ≤ name.length
  le_max : name.length ≤ 64
  chars : ∀ c ∈ name.toList, IsNameChar c

/-- A password that may be compared. -/
structure IsPassword (password : String) : Prop where
  one_le : 1 ≤ password.length
  le_max : password.length ≤ 128

/-- What is said against a username. -/
inductive UsernameFault (name : String) : ValidationError → Prop where
  | missing (h : name = "") : UsernameFault name (.missingField "Username is required")
  | tooLong (h : 64 < name.length) :
    UsernameFault name (.invalidUsername "Username must be at most 64 characters")
  | strange (h : name.length ≤ 64) (c : Char) (hc : c ∈ name.toList) (hstrange : ¬IsNameChar c) :
    UsernameFault name (.invalidUsername "Username contains invalid characters")

/-- What is said against a password. -/
inductive PasswordFault (password : String) : ValidationError → Prop where
  | missing (h : password = "") : PasswordFault password (.missingField "Password is required")
  | tooLong (h : 128 < password.length) :
    PasswordFault password (.invalidPassword "Password must be at most 128 characters")

/-- A check that gives a value for what is good, and names a fault of all else. -/
structure Sorts {ε α : Type} (check : Except ε α) (good : Prop) (value : α) (fault : ε → Prop) :
    Prop where
  pass : good → check = .ok value
  fail : ∀ e, fault e → check = .error e
  cover : good ∨ ∃ e, fault e

namespace Sorts

variable {ε α : Type} {check : Except ε α} {good : Prop} {value : α} {fault : ε → Prop}

theorem eq_ok_iff (h : Sorts check good value fault) (other : α) :
    check = .ok other ↔ good ∧ other = value := by
  constructor
  · intro hok
    rcases h.cover with hgood | ⟨e, hfault⟩
    · rw [h.pass hgood] at hok
      exact ⟨hgood, (Except.ok.inj hok).symm⟩
    · rw [h.fail e hfault] at hok
      contradiction
  · rintro ⟨hgood, rfl⟩
    exact h.pass hgood

theorem eq_error_iff (h : Sorts check good value fault) (e : ε) :
    check = .error e ↔ fault e := by
  refine ⟨fun herror => ?_, h.fail e⟩
  rcases h.cover with hgood | ⟨e', hfault⟩
  · rw [h.pass hgood] at herror
    contradiction
  · rw [h.fail e' hfault] at herror
    exact Except.error.inj herror ▸ hfault

end Sorts

variable {text other : String}

theorem isEmpty_eq_false_of_one_le (h : 1 ≤ text.length) : text.isEmpty = false := by
  rw [← Bool.not_eq_true, String.isEmpty_iff]
  rintro rfl
  simp at h

theorem one_le_length_of_ne (h : text ≠ "") : 1 ≤ text.length := by
  rw [Nat.one_le_iff_ne_zero, ← String.length_toList]
  simpa using h

/-! ## Usernames -/

theorem isAlphanum_iff {c : Char} :
    c.isAlphanum = true ↔ 'A' ≤ c ∧ c ≤ 'Z' ∨ 'a' ≤ c ∧ c ≤ 'z' ∨ '0' ≤ c ∧ c ≤ '9' := by
  have hupper : c.isUpper = true ↔ 'A' ≤ c ∧ c ≤ 'Z' := decide_eq_true_iff
  have hlower : c.isLower = true ↔ 'a' ≤ c ∧ c ≤ 'z' :=
    Bool.and_eq_true_iff.trans (and_congr decide_eq_true_iff decide_eq_true_iff)
  have hdigit : c.isDigit = true ↔ '0' ≤ c ∧ c ≤ '9' :=
    Bool.and_eq_true_iff.trans (and_congr decide_eq_true_iff decide_eq_true_iff)
  have halphanum : c.isAlphanum = (c.isUpper || c.isLower || c.isDigit) := rfl
  rw [halphanum, Bool.or_eq_true, Bool.or_eq_true, hupper, hlower, hdigit, or_assoc]

theorem isUsernameChar_iff {c : Char} : isUsernameChar c = true ↔ IsNameChar c := by
  rw [isUsernameChar, Bool.or_eq_true, isAlphanum_iff, List.contains_iff_mem, IsNameChar]
  simp only [or_assoc]

theorem isUsername_or_fault (name : String) : IsUsername name ∨ ∃ e, UsernameFault name e := by
  by_cases hempty : name = ""
  · exact .inr ⟨_, .missing hempty⟩
  by_cases hlong : 64 < name.length
  · exact .inr ⟨_, .tooLong hlong⟩
  have hshort : name.length ≤ 64 := Nat.le_of_not_lt hlong
  by_cases hchars : ∀ c ∈ name.toList, IsNameChar c
  · exact .inl ⟨one_le_length_of_ne hempty, hshort, hchars⟩
  · simp only [Classical.not_forall] at hchars
    obtain ⟨c, hc, hstrange⟩ := hchars
    exact .inr ⟨_, .strange hshort c hc hstrange⟩

theorem checkUsername_of_isUsername (h : IsUsername (Text.trim text)) :
    checkUsername text = .ok (Text.trim text) := by
  have hempty := isEmpty_eq_false_of_one_le h.one_le
  have hshort : ¬maxUsernameLength < (Text.trim text).length := Nat.not_lt.mpr h.le_max
  have hchars : (Text.trim text).toList.all isUsernameChar = true :=
    List.all_eq_true.mpr fun c hc => isUsernameChar_iff.mpr (h.chars c hc)
  unfold checkUsername
  simp only [hempty, hchars, gt_iff_lt, hshort, Bool.false_eq_true, if_true, if_false]

theorem checkUsername_of_fault {e : ValidationError} (h : UsernameFault (Text.trim text) e) :
    checkUsername text = .error e := by
  unfold checkUsername
  cases h with
  | missing h => simp [h]
  | tooLong h =>
    have hempty := isEmpty_eq_false_of_one_le (Nat.one_le_of_lt h)
    have hlong : maxUsernameLength < (Text.trim text).length := h
    simp only [hempty, gt_iff_lt, hlong, Bool.false_eq_true, if_true, if_false]
    rfl
  | strange h c hc hstrange =>
    have hempty : (Text.trim text).isEmpty = false := by
      rw [← Bool.not_eq_true, String.isEmpty_iff]
      intro hnone
      simp [hnone] at hc
    have hshort : ¬maxUsernameLength < (Text.trim text).length := Nat.not_lt.mpr h
    have hchars : (Text.trim text).toList.all isUsernameChar = false := by
      rw [← Bool.not_eq_true, List.all_eq_true]
      exact fun hall => hstrange (isUsernameChar_iff.mp (hall c hc))
    simp only [hempty, hchars, gt_iff_lt, hshort, Bool.false_eq_true, if_false]

theorem sorts_checkUsername (text : String) :
    Sorts (checkUsername text) (IsUsername (Text.trim text)) (Text.trim text)
      (UsernameFault (Text.trim text)) :=
  ⟨checkUsername_of_isUsername, fun _ => checkUsername_of_fault, isUsername_or_fault _⟩

theorem checkUsername_congr (h : Text.trim text = Text.trim other) :
    checkUsername text = checkUsername other := by
  unfold checkUsername
  rw [h]

/-! ## Passwords -/

theorem sorts_checkPassword (password : String) :
    Sorts (checkPassword password) (IsPassword password) () (PasswordFault password) := by
  unfold checkPassword
  constructor
  · intro h
    have hempty := isEmpty_eq_false_of_one_le h.one_le
    have hshort : ¬maxPasswordLength < password.length := Nat.not_lt.mpr h.le_max
    simp only [hempty, gt_iff_lt, hshort, Bool.false_eq_true, if_false]
  · intro e h
    cases h with
    | missing h => simp [h]
    | tooLong h =>
      have hempty := isEmpty_eq_false_of_one_le (Nat.one_le_of_lt h)
      have hlong : maxPasswordLength < password.length := h
      simp only [hempty, gt_iff_lt, hlong, Bool.false_eq_true, if_true, if_false]
      rfl
  · by_cases hempty : password = ""
    · exact .inr ⟨_, .missing hempty⟩
    by_cases hlong : 128 < password.length
    · exact .inr ⟨_, .tooLong hlong⟩
    · exact .inl ⟨one_le_length_of_ne hempty, Nat.le_of_not_lt hlong⟩

/-! ## Login requests -/

namespace LoginRequest

/-- What is said against a login request. A fault of the password counts only behind a good
username. -/
def Fault (request : LoginRequest) (e : ValidationError) : Prop :=
  UsernameFault (Text.trim request.username) e ∨
    IsUsername (Text.trim request.username) ∧ PasswordFault request.password e

theorem sorts_sanitize (request : LoginRequest) :
    Sorts request.sanitize
      (IsUsername (Text.trim request.username) ∧ IsPassword request.password)
      ⟨Text.trim request.username, request.password⟩ request.Fault := by
  have hname := sorts_checkUsername request.username
  have hpassword := sorts_checkPassword request.password
  constructor
  · rintro ⟨hgood, hgood'⟩
    rw [sanitize, hname.pass hgood, hpassword.pass hgood']
    rfl
  · rintro e (hfault | ⟨hgood, hfault⟩)
    · rw [sanitize, hname.fail e hfault]
      rfl
    · rw [sanitize, hname.pass hgood, hpassword.fail e hfault]
      rfl
  · rcases hname.cover with hgood | ⟨e, hfault⟩
    · rcases hpassword.cover with hgood' | ⟨e, hfault⟩
      · exact .inl ⟨hgood, hgood'⟩
      · exact .inr ⟨e, .inr ⟨hgood, hfault⟩⟩
    · exact .inr ⟨e, .inl hfault⟩

/-- What has passed is passed again as it is. -/
theorem sanitize_of_sanitize {request checked : LoginRequest} (h : request.sanitize = .ok checked) :
    checked.sanitize = .ok checked := by
  obtain ⟨hgood, rfl⟩ := (sorts_sanitize request).eq_ok_iff checked |>.mp h
  rw [(sorts_sanitize _).eq_ok_iff]
  simpa only [Text.trim_trim, and_true] using hgood

/-- Blanks around a username make no difference. -/
theorem sanitize_congr {request : LoginRequest}
    (h : Text.trim request.username = Text.trim text) :
    request.sanitize = sanitize ⟨text, request.password⟩ := by
  unfold sanitize
  rw [checkUsername_congr h]

end LoginRequest

end Gatehouse
