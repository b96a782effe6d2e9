import Gatehouse.Proofs.Database.Outcome

/-! Calls are all or nothing. One that is refused, for one of a few reasons, leaves every table as
it was; one that succeeds changes no rows but those it names, and some may be repeated at will. -/
namespace Gatehouse.Database

open Accounts (failure)

/-! ## Refusals -/

/-- Why a call is refused, given the rows. -/
inductive Refused (r : Rows) : Call → Error → Prop where
  | usernameTaken (u : NewUser) (second : Int) (n : Nat) (other : User)
    (hother : r.users.rows[n]? = some other) (hname : other.username = u.username) :
    Refused r (.createUser u second) (.storage (.constraint s!"Username {u.username} is taken"))
  | usersFull (u : NewUser) (second : Int)
    (hfree : ∀ (n : Nat) (other : User), r.users.rows[n]? = some other →
      other.username ≠ u.username)
    (hfull : Numbered.limit ≤ r.users.last + 1) :
    Refused r (.createUser u second) (failure none .full)
  | nobody (id : UserId) (hash : String) (second : Int)
    (hnobody : r.users.rows[id.value.toNat]? = none) :
    Refused r (.updateHash id hash second) (.storage .notFound)
  | roleBlank (code : String) (fullAccess : Bool) (hblank : (Text.trim code).isEmpty = true) :
    Refused r (.createRole code fullAccess)
      (.validation (.missingField "Role code is required"))
  | roleTaken (code : String) (fullAccess : Bool) (hcode : ¬(Text.trim code).isEmpty = true)
    (n : Nat) (other : Role) (hother : r.roles.rows[n]? = some other)
    (hsame : other.code = code) :
    Refused r (.createRole code fullAccess)
      (failure (some "Failed to create role") (.notUnique "roles.code"))
  | rolesFull (code : String) (fullAccess : Bool) (hcode : ¬(Text.trim code).isEmpty = true)
    (hfree : ∀ (n : Nat) (other : Role), r.roles.rows[n]? = some other → other.code ≠ code)
    (hfull : Numbered.limit ≤ r.roles.last + 1) :
    Refused r (.createRole code fullAccess) (failure (some "Failed to create role") .full)
  | permissionBlank (role : RoleId) (code : String) (hblank : (Text.trim code).isEmpty = true) :
    Refused r (.grant role code) (.validation (.missingField "Permission code is required"))
  | permissionsFull (role : RoleId) (code : String) (hcode : ¬(Text.trim code).isEmpty = true)
    (hnew : ∀ (n : Nat) (other : String), r.permissions.rows[n]? = some other → other ≠ code)
    (hfull : Numbered.limit ≤ r.permissions.last + 1) :
    Refused r (.grant role code) (failure (some "Failed to create permission") .full)
  | roleMissing (role : RoleId) (code : String) (hcode : ¬(Text.trim code).isEmpty = true)
    (hroom : (∃ n : Nat, r.permissions.rows[n]? = some code) ∨
      r.permissions.last + 1 < Numbered.limit)
    (hrole : r.roles.rows[role.value.toNat]? = none) :
    Refused r (.grant role code) (failure (some "Failed to grant permission") .foreignKey)
  | idTooGreat (id : UserId) (role : RoleId) (hid : Numbered.limit ≤ id.value.toNat) :
    Refused r (.assign id role) (.storage .notFound)
  | sideMissing (id : UserId) (role : RoleId) (hid : id.value.toNat < Numbered.limit)
    (hmissing : r.users.rows[id.value.toNat]? = none ∨ r.roles.rows[role.value.toNat]? = none) :
    Refused r (.assign id role) (failure (some "Failed to assign role") .foreignKey)

namespace Numbered

variable {Row ε : Type} {t : Numbered Row}

theorem isSome_find?_iff {p : Row → Bool} :
    (t.find? p).isSome = true ↔ ∃ (n : Nat) (row : Row), t.rows[n]? = some row ∧ p row = true := by
  constructor
  · intro h
    obtain ⟨⟨n, row⟩, hfound⟩ := Option.isSome_iff_exists.mp h
    exact ⟨n, row, find?_eq_some hfound⟩
  · rintro ⟨n, row, hrow, hp⟩
    rw [← Option.ne_none_iff_isSome]
    intro hnone
    rw [find?_eq_none_iff.mp hnone n row hrow] at hp
    contradiction

theorem addNew_eq_error_iff {like : Row → Bool} {taken full e : ε} {row : Nat → Row} :
    t.addNew like taken full row = .error e ↔
      (∃ (n : Nat) (other : Row), t.rows[n]? = some other ∧ like other = true) ∧ e = taken ∨
      (∀ (n : Nat) (other : Row), t.rows[n]? = some other → like other = false) ∧
        limit ≤ t.last + 1 ∧ e = full := by
  unfold addNew
  rw [← isSome_find?_iff, ← find?_eq_none_iff]
  cases t.find? like with
  | some entry => simp [eq_comm]
  | none =>
    by_cases hroom : t.last + 1 < limit
    · simp [hroom, Nat.not_le.mpr hroom]
    · simp [hroom, Nat.le_of_not_lt hroom, eq_comm]

theorem ensure_cases [DecidableEq Row] (t : Numbered Row) (row : Row) :
    (∃ n : Nat, t.rows[n]? = some row ∧ t.ensure row = (n, t)) ∨
      (∀ (n : Nat) (other : Row), t.rows[n]? = some other → other ≠ row) ∧
        t.ensure row = (t.last + 1, t.push row) := by
  unfold ensure
  cases hfound : t.find? (· = row) with
  | some entry =>
    obtain ⟨n, other⟩ := entry
    obtain ⟨hrow, hsame⟩ := find?_eq_some hfound
    rw [of_decide_eq_true hsame] at hrow
    exact .inl ⟨n, hrow, rfl⟩
  | none =>
    refine .inr ⟨fun n other hother => ?_, rfl⟩
    exact of_decide_eq_false (find?_eq_none_iff.mp hfound n other hother)

end Numbered

theorem map_eq_error_iff {ε α β : Type} {result : Except ε α} {f : α → β} {e : ε} :
    result.map f = .error e ↔ result = .error e := by
  cases result <;> simp [Except.map]

variable {r rows : Rows} {c : Call} {deed : Deed} {e : Error}

theorem createUser_eq_error_iff {u : NewUser} {second : Int} :
    r.createUser u second = .error e ↔ Refused r (.createUser u second) e := by
  rw [Rows.createUser, map_eq_error_iff, Numbered.addNew_eq_error_iff]
  constructor
  · rintro (⟨⟨n, other, hother, hname⟩, rfl⟩ | ⟨hfree, hfull, rfl⟩)
    · exact .usernameTaken u second n other hother (of_decide_eq_true hname)
    · exact .usersFull u second (fun n other hother => of_decide_eq_false (hfree n other hother))
        hfull
  · intro h
    cases h with
    | usernameTaken _ _ n other hother hname =>
      exact .inl ⟨⟨n, other, hother, decide_eq_true hname⟩, rfl⟩
    | usersFull _ _ hfree hfull =>
      exact .inr ⟨fun n other hother => decide_eq_false (hfree n other hother), hfull, rfl⟩

theorem updateHash_eq_error_iff {id : UserId} {hash : String} {second : Int} :
    r.updateHash id hash second = .error e ↔ Refused r (.updateHash id hash second) e := by
  unfold Rows.updateHash
  cases huser : r.users.rows[id.value.toNat]? with
  | none =>
    constructor
    · rintro ⟨⟩
      exact .nobody id hash second huser
    · rintro ⟨⟩
      rfl
  | some user =>
    constructor
    · rintro ⟨⟩
    · intro h
      cases h with
      | nobody _ _ _ hnobody =>
        cases huser.symm.trans hnobody

theorem createRole_eq_error_iff {code : String} {fullAccess : Bool} :
    r.createRole code fullAccess = .error e ↔ Refused r (.createRole code fullAccess) e := by
  unfold Rows.createRole
  by_cases hblank : (Text.trim code).isEmpty = true
  · rw [if_pos hblank]
    constructor
    · rintro ⟨⟩
      exact .roleBlank code fullAccess hblank
    · intro h
      cases h with
      | roleBlank => rfl
      | roleTaken _ _ hcode | rolesFull _ _ hcode => exact absurd hblank hcode
  · rw [if_neg hblank, map_eq_error_iff, Numbered.addNew_eq_error_iff]
    constructor
    · rintro (⟨⟨n, other, hother, hsame⟩, rfl⟩ | ⟨hfree, hfull, rfl⟩)
      · exact .roleTaken code fullAccess hblank n other hother (of_decide_eq_true hsame)
      · exact .rolesFull code fullAccess hblank
          (fun n other hother => of_decide_eq_false (hfree n other hother)) hfull
    · intro h
      cases h with
      | roleBlank _ _ hempty => exact absurd hempty hblank
      | roleTaken _ _ _ n other hother hsame =>
        exact .inl ⟨⟨n, other, hother, decide_eq_true hsame⟩, rfl⟩
      | rolesFull _ _ _ hfree hfull =>
        exact .inr ⟨fun n other hother => decide_eq_false (hfree n other hother), hfull, rfl⟩

/-- No number is left for a permission just if it is new and the last number has been given out. -/
theorem limit_le_ensure_iff (h : Sound r) (code : String) :
    Numbered.limit ≤ (r.permissions.ensure code).2.last ↔
      (∀ (n : Nat) (other : String), r.permissions.rows[n]? = some other → other ≠ code) ∧
        Numbered.limit ≤ r.permissions.last + 1 := by
  rcases r.permissions.ensure_cases code with ⟨n, hknown, hensure⟩ | ⟨hnew, hensure⟩
  · rw [hensure]
    constructor
    · intro hfull
      exact absurd h.permissions.last_lt (Nat.not_lt.mpr hfull)
    · rintro ⟨hnew, -⟩
      exact absurd rfl (hnew n code hknown)
  · rw [hensure]
    exact (and_iff_right hnew).symm

theorem grant_eq_error_iff (h : Sound r) {role : RoleId} {code : String} :
    r.grant role code = .error e ↔ Refused r (.grant role code) e := by
  unfold Rows.grant
  by_cases hblank : (Text.trim code).isEmpty = true
  · simp only [if_pos hblank]
    constructor
    · rintro ⟨⟩
      exact .permissionBlank role code hblank
    · intro hrefused
      cases hrefused with
      | permissionBlank => rfl
      | permissionsFull _ _ hcode | roleMissing _ _ hcode => exact absurd hblank hcode
  simp only [if_neg hblank]
  by_cases hfull : Numbered.limit ≤ (r.permissions.ensure code).2.last
  · simp only [if_pos hfull]
    obtain ⟨hnew, hlast⟩ := (limit_le_ensure_iff h code).mp hfull
    constructor
    · rintro ⟨⟩
      exact .permissionsFull role code hblank hnew hlast
    · intro hrefused
      cases hrefused with
      | permissionBlank _ _ hempty => exact absurd hempty hblank
      | permissionsFull => rfl
      | roleMissing _ _ _ hroom =>
        rcases hroom with ⟨n, hknown⟩ | hroom
        · exact absurd rfl (hnew n code hknown)
        · exact absurd hlast (Nat.not_le.mpr hroom)
  simp only [if_neg hfull]
  have hfits := mt (limit_le_ensure_iff h code).mpr hfull
  cases hrole : r.roles.rows[role.value.toNat]? with
  | some found =>
    constructor
    · rintro ⟨⟩
    · intro hrefused
      cases hrefused with
      | permissionBlank _ _ hempty => exact absurd hempty hblank
      | permissionsFull _ _ _ hnew hlast => exact absurd ⟨hnew, hlast⟩ hfits
      | roleMissing _ _ _ _ hmissing =>
        cases hrole.symm.trans hmissing
  | none =>
    constructor
    · rintro ⟨⟩
      refine .roleMissing role code hblank ?_ hrole
      by_cases hknown : ∃ n : Nat, r.permissions.rows[n]? = some code
      · exact .inl hknown
      · refine .inr (Nat.lt_of_not_le fun hlast => hfits ⟨?_, hlast⟩)
        rintro n other hother rfl
        exact hknown ⟨n, hother⟩
    · intro hrefused
      cases hrefused with
      | permissionBlank _ _ hempty => exact absurd hempty hblank
      | permissionsFull _ _ _ hnew hlast => exact absurd ⟨hnew, hlast⟩ hfits
      | roleMissing => rfl

theorem assign_eq_error_iff {id : UserId} {role : RoleId} :
    r.assign id role = .error e ↔ Refused r (.assign id role) e := by
  unfold Rows.assign
  by_cases hid : Numbered.limit ≤ id.value.toNat
  · rw [if_pos hid]
    constructor
    · rintro ⟨⟩
      exact .idTooGreat id role hid
    · intro h
      cases h with
      | idTooGreat => rfl
      | sideMissing _ _ hless => exact absurd hid (Nat.not_le.mpr hless)
  rw [if_neg hid]
  split
  · rename_i hboth
    constructor
    · rintro ⟨⟩
    · intro h
      cases h with
      | idTooGreat _ _ hgreat => exact absurd hgreat hid
      | sideMissing _ _ _ hmissing =>
        rcases hmissing with hmissing | hmissing <;> simp [hmissing] at hboth
  · rename_i hboth
    constructor
    · rintro ⟨⟩
      refine .sideMissing id role (Nat.lt_of_not_le hid) ?_
      simpa [Classical.or_iff_not_imp_left] using hboth
    · intro h
      cases h with
      | idTooGreat _ _ hgreat => exact absurd hgreat hid
      | sideMissing => rfl

theorem outcome_eq_error_iff (h : Sound r) : c.outcome r = .error e ↔ Refused r c e := by
  cases c with
  | createUser u second => rw [Call.outcome, map_eq_error_iff, createUser_eq_error_iff]
  | updateHash id hash second => rw [Call.outcome, map_eq_error_iff, updateHash_eq_error_iff]
  | deleteUser id =>
    constructor
    · rintro ⟨⟩
    · rintro ⟨⟩
  | createRole code fullAccess => rw [Call.outcome, map_eq_error_iff, createRole_eq_error_iff]
  | grant role code => rw [Call.outcome, map_eq_error_iff, grant_eq_error_iff h]
  | assign id role => rw [Call.outcome, map_eq_error_iff, assign_eq_error_iff]

/-! ## What a call names -/

/-- A row of one of the tables of the directory. -/
inductive Entry where
  | user (n : Nat) (row : User)
  | role (n : Nat) (row : Role)
  | permission (n : Nat) (code : String)
  | assignment (user role : Nat)
  | allowance (role permission : Nat)

def Rows.Holds (r : Rows) : Entry → Prop
  | .user n row => r.users.rows[n]? = some row
  | .role n row => r.roles.rows[n]? = some row
  | .permission n code => r.permissions.rows[n]? = some code
  | .assignment user role => (user, role) ∈ r.userRoles
  | .allowance role permission => (role, permission) ∈ r.rolePermissions

/-- Whether a call is about a row, given the rows to which it has led. -/
def Call.Names (rows : Rows) : Call → Entry → Prop
  | createUser u _, .user _ row => row.username = u.username
  | updateHash id _ _, .user n _ => n = id.value.toNat
  | deleteUser id, .user n _ => n = id.value.toNat
  | deleteUser id, .assignment user _ => user = id.value.toNat
  | createRole code _, .role _ row => row.code = code
  | grant _ code, .permission _ other => other = code
  | grant role code, .allowance k permission =>
    k = role.value.toNat ∧ rows.permissions.rows[permission]? = some code
  | assign id role, .assignment user k => user = id.value.toNat ∧ k = role.value.toNat
  | _, _ => False

theorem ok_of_map {ε α β : Type} {result : Except ε α} {f : α → β} {value : β}
    (h : result.map f = .ok value) : ∃ first, result = .ok first ∧ f first = value := by
  cases result with
  | error e => contradiction
  | ok first => exact ⟨first, rfl, Except.ok.inj h⟩

namespace Numbered

theorem ok_of_addNew {Row ε : Type} {t next : Numbered Row} {like : Row → Bool} {taken full : ε}
    {row : Nat → Row} {value : Row} (h : t.addNew like taken full row = .ok (value, next)) :
    value = row (t.last + 1) ∧ next = t.push value := by
  unfold addNew at h
  split at h
  · contradiction
  split at h
  · cases h
    exact ⟨rfl, rfl⟩
  · contradiction

/-- A row under a number that was not given out before is the only difference. -/
theorem Within.getElem?_push_iff {Row : Type} {t : Numbered Row} (h : t.Within) {row other : Row}
    {n : Nat} (hne : other ≠ row) :
    (t.push row).rows[n]? = some other ↔ t.rows[n]? = some other := by
  rw [getElem?_push]
  split
  · rename_i hn
    rw [h.getElem?_of_lt (by omega)]
    simp [Ne.symm hne]
  · rfl

end Numbered

section

variable {Row : Type} [DecidableEq Row] {t : Numbered Row} {row : Row}

theorem Numbered.getElem?_ensure : (t.ensure row).2.rows[(t.ensure row).1]? = some row := by
  rcases t.ensure_cases row with ⟨n, hknown, hensure⟩ | ⟨-, hensure⟩
  · rw [hensure]
    exact hknown
  · rw [hensure, Numbered.getElem?_push, if_pos rfl]

theorem Numbered.Within.getElem?_ensure_iff (h : t.Within) {other : Row} {n : Nat}
    (hne : other ≠ row) : (t.ensure row).2.rows[n]? = some other ↔ t.rows[n]? = some other := by
  rcases t.ensure_cases row with ⟨k, -, hensure⟩ | ⟨-, hensure⟩
  · rw [hensure]
  · rw [hensure]
    exact h.getElem?_push_iff hne

theorem Numbered.ensure_ensure : (t.ensure row).2.ensure row = t.ensure row := by
  rcases t.ensure_cases row with ⟨n, hknown, hensure⟩ | ⟨hnew, hensure⟩
  · rw [hensure, hensure]
  · rw [hensure]
    rcases (t.push row).ensure_cases row with ⟨n, hagain, hsame⟩ | ⟨hnone, -⟩
    · rw [Numbered.getElem?_push] at hagain
      split at hagain
      · rename_i hn
        rw [hsame, hn]
      · exact absurd rfl (hnew n row hagain)
    · exact absurd rfl (hnone (t.last + 1) row (by rw [Numbered.getElem?_push, if_pos rfl]))

end

theorem grant_eq_ok_iff {role : RoleId} {code : String} :
    r.grant role code = .ok ((), rows) ↔
      ¬(Text.trim code).isEmpty = true ∧ ¬Numbered.limit ≤ (r.permissions.ensure code).2.last ∧
        (r.roles.rows[role.value.toNat]?).isSome = true ∧
        { r with
          permissions := (r.permissions.ensure code).2
          rolePermissions := link r.rolePermissions
            (role.value.toNat, (r.permissions.ensure code).1) } = rows := by
  unfold Rows.grant
  dsimp only
  split
  · simp [*]
  split
  · simp [*]
  split <;> simp [*]

theorem assign_eq_ok_iff {id : UserId} {role : RoleId} :
    r.assign id role = .ok ((), rows) ↔
      ¬Numbered.limit ≤ id.value.toNat ∧
        ((r.users.rows[id.value.toNat]?).isSome ∧ (r.roles.rows[role.value.toNat]?).isSome) ∧
        { r with userRoles := link r.userRoles (id.value.toNat, role.value.toNat) } = rows := by
  unfold Rows.assign
  split
  · simp [*]
  split
  · simp [*]
  · rename_i hmissing
    constructor
    · rintro ⟨⟩
    · rintro ⟨-, hboth, -⟩
      exact absurd hboth hmissing

/-- A call that succeeds changes no row but those that it names. -/
theorem holds_iff (h : Sound r) (hrun : c.outcome r = .ok (deed, rows)) {entry : Entry}
    (hentry : ¬c.Names rows entry) : rows.Holds entry ↔ r.Holds entry := by
  cases c with
  | createUser u second =>
    rw [Call.outcome] at hrun
    obtain ⟨⟨user, _⟩, hcreated, heq⟩ := ok_of_map hrun
    obtain ⟨⟨_, users⟩, hadded, hput⟩ := ok_of_map hcreated
    obtain ⟨hvalue, hnext⟩ := Numbered.ok_of_addNew hadded
    cases heq
    cases hput
    cases entry with
    | user n row =>
      refine hnext ▸ h.users.getElem?_push_iff ?_
      rintro rfl
      exact hentry (congrArg User.username hvalue)
    | _ => rfl
  | updateHash id hash second =>
    rw [Call.outcome] at hrun
    obtain ⟨⟨_, _⟩, hupdated, heq⟩ := ok_of_map hrun
    cases heq
    unfold Rows.updateHash at hupdated
    split at hupdated
    · cases hupdated
      cases entry with
      | user n row =>
        change (Std.ExtTreeMap.insert _ _ _)[n]? = some row ↔ _
        rw [getElem?_rehashed, if_neg (Ne.symm hentry)]
        rfl
      | _ => rfl
    · cases hupdated
  | deleteUser id =>
    cases hrun
    cases entry with
    | user n row =>
      change (r.users.remove _).rows[n]? = some row ↔ _
      rw [Numbered.getElem?_remove, if_neg (Ne.symm hentry)]
      rfl
    | assignment user role =>
      change (user, role) ∈ List.filter _ _ ↔ _
      rw [List.mem_filter]
      exact and_iff_left (decide_eq_true hentry)
    | _ => rfl
  | createRole code fullAccess =>
    rw [Call.outcome] at hrun
    obtain ⟨⟨role, _⟩, hcreated, heq⟩ := ok_of_map hrun
    cases heq
    unfold Rows.createRole at hcreated
    split at hcreated
    · cases hcreated
    obtain ⟨⟨_, roles⟩, hadded, hput⟩ := ok_of_map hcreated
    obtain ⟨hvalue, hnext⟩ := Numbered.ok_of_addNew hadded
    cases hput
    cases entry with
    | role n row =>
      refine hnext ▸ h.roles.getElem?_push_iff ?_
      rintro rfl
      exact hentry (congrArg Role.code hvalue)
    | _ => rfl
  | grant role code =>
    rw [Call.outcome] at hrun
    obtain ⟨⟨_, _⟩, hgranted, heq⟩ := ok_of_map hrun
    cases heq
    obtain ⟨-, -, -, rfl⟩ := grant_eq_ok_iff.mp hgranted
    cases entry with
    | permission n other => exact h.permissions.getElem?_ensure_iff hentry
    | allowance k permission =>
      refine mem_link.trans (or_iff_left fun hsame => hentry ?_)
      cases hsame
      exact ⟨rfl, Numbered.getElem?_ensure⟩
    | _ => rfl
  | assign id role =>
    rw [Call.outcome] at hrun
    obtain ⟨⟨_, _⟩, hassigned, heq⟩ := ok_of_map hrun
    cases heq
    obtain ⟨-, -, rfl⟩ := assign_eq_ok_iff.mp hassigned
    cases entry with
    | assignment user k =>
      refine mem_link.trans (or_iff_left fun hsame => hentry ?_)
      cases hsame
      exact ⟨rfl, rfl⟩
    | _ => rfl

/-! ## Repetition -/

/-- Whether a call may be repeated at will. -/
def Call.IsRepeatable : Call → Prop
  | deleteUser _ | grant _ _ | assign _ _ => True
  | createUser _ _ | updateHash _ _ _ | createRole _ _ => False

theorem link_link (pairs : List (Nat × Nat)) (pair : Nat × Nat) :
    link (link pairs pair) pair = link pairs pair :=
  if_pos (List.contains_iff_mem.mpr (mem_link.mpr (.inr rfl)))

theorem deleteUser_deleteUser (r : Rows) (id : UserId) :
    (r.deleteUser id).deleteUser id = r.deleteUser id := by
  have hgone : ((r.users.remove id.value.toNat).rows[id.value.toNat]?) = none := by
    rw [Numbered.getElem?_remove, if_pos rfl]
  unfold Rows.deleteUser
  simp only [Numbered.remove_of_none hgone, List.filter_filter, Bool.and_self]

theorem outcome_again (hc : c.IsRepeatable) (hrun : c.outcome r = .ok (deed, rows)) :
    c.outcome rows = .ok (deed, rows) := by
  cases c with
  | createUser | updateHash | createRole => cases hc
  | deleteUser id =>
    cases hrun
    rw [Call.outcome, deleteUser_deleteUser]
  | grant role code =>
    rw [Call.outcome] at hrun
    obtain ⟨⟨_, _⟩, hgranted, heq⟩ := ok_of_map hrun
    cases heq
    obtain ⟨hcode, hroom, hrole, heq⟩ := grant_eq_ok_iff.mp hgranted
    have hagain : rows.grant role code = .ok ((), rows) := by
      rw [← heq]
      refine grant_eq_ok_iff.mpr ⟨hcode, ?_, hrole, ?_⟩
      · rwa [Numbered.ensure_ensure]
      · rw [Numbered.ensure_ensure, link_link]
    rw [Call.outcome, hagain]
    rfl
  | assign id role =>
    rw [Call.outcome] at hrun
    obtain ⟨⟨_, _⟩, hassigned, heq⟩ := ok_of_map hrun
    cases heq
    obtain ⟨hid, hboth, heq⟩ := assign_eq_ok_iff.mp hassigned
    have hagain : rows.assign id role = .ok ((), rows) := by
      rw [← heq]
      exact assign_eq_ok_iff.mpr ⟨hid, hboth, by rw [link_link]⟩
    rw [Call.outcome, hagain]
    rfl

/-! ## Calls upon a database -/

section

variable {db after : Database}

theorem run_of_refused (hdb : db.Serves) (hrows : Sound db.rows) (h : Refused db.rows c e) :
    c.change.run db = (.error e, db) := by
  rw [change_run_eq hdb hrows, (outcome_eq_error_iff hrows).mpr h]

theorem refused_of_run (hdb : db.Serves) (hrows : Sound db.rows)
    (h : (c.change.run db).1 = .error e) : Refused db.rows c e := by
  rw [change_run_eq hdb hrows] at h
  apply (outcome_eq_error_iff hrows).mp
  split at h
  · cases h
  · cases h
    assumption

/-- A permission is not granted to a role that is not there. -/
theorem refused_of_roleMissing (hrows : Sound r) {role : RoleId}
    (hrole : r.roles.rows[role.value.toNat]? = none) (code : String) :
    ∃ e, Refused r (.grant role code) e := by
  cases houtcome : r.grant role code with
  | error e => exact ⟨e, (grant_eq_error_iff hrows).mp houtcome⟩
  | ok result =>
    obtain ⟨-, -, hfound, -⟩ := grant_eq_ok_iff.mp houtcome
    rw [hrole] at hfound
    cases hfound

theorem done_of_run (hdb : db.Serves) (hrows : Sound db.rows)
    (h : c.change.run db = (.ok deed, after)) :
    ∃ rows, after = { db with rows } ∧ Effect db.rows deed rows ∧
      (∀ entry, ¬c.Names rows entry → (rows.Holds entry ↔ db.rows.Holds entry)) ∧
      (c.IsRepeatable → c.change.run after = (.ok deed, after)) := by
  rw [change_run_eq hdb hrows] at h
  split at h
  · rename_i done rows houtcome
    cases h
    have hrun := run_change hdb hrows c
    rw [houtcome] at hrun
    obtain ⟨others, heffect, hsame⟩ := effect_change hrun
    cases congrArg Database.rows hsame
    refine ⟨rows, rfl, heffect, fun entry => holds_iff hrows houtcome, fun hc => ?_⟩
    have hserves : Serves { db with rows } := ⟨⟨hdb.isOpen, hdb.unbarred⟩, hdb.has⟩
    rw [change_run_eq hserves (sound_effect hrows heffect), outcome_again hc houtcome]
  · cases h

end

theorem sound_after (second : Int) (calls : List Call) :
    Sound ((History.start second).after calls).database.rows := by
  refine History.after_induction (P := fun h => Sound h.database.rows) ?_
    (fun h deed rows hrows heffect => sound_effect hrows heffect) calls
  rw [History.start, Layout.migrate_empty]
  exact sound_empty.withRecords _

/-- A call is refused for one of a few reasons, and then nothing is changed; among them a username
that is taken, a user who is not there, and a role that is not there, for whose sake no permission
is left behind. A call that succeeds changes what it names, and doing once more what may be repeated
changes nothing. -/
theorem calls_all_or_nothing (second : Int) (calls : List Call) :
    let db := ((History.start second).after calls).database
    (∀ (c : Call) (e : Error), (c.change.run db).1 = .error e ↔ Refused db.rows c e) ∧
    (∀ (c : Call) (e : Error) (after : Database), c.change.run db = (.error e, after) →
      after = db) ∧
    (∀ (u : NewUser) (moment : Int) (n : Nat) (other : User),
      db.rows.users.rows[n]? = some other → other.username = u.username →
      (Call.createUser u moment).change.run db =
        (.error (.storage (.constraint s!"Username {u.username} is taken")), db)) ∧
    (∀ (id : UserId) (hash : String) (moment : Int),
      db.rows.users.rows[id.value.toNat]? = none →
      (Call.updateHash id hash moment).change.run db = (.error (.storage .notFound), db)) ∧
    (∀ (role : RoleId) (code : String), db.rows.roles.rows[role.value.toNat]? = none →
      ∃ e, (Call.grant role code).change.run db = (.error e, db)) ∧
    (∀ (c : Call) (deed : Deed) (after : Database), c.change.run db = (.ok deed, after) →
      ∃ rows, after = { db with rows } ∧ Effect db.rows deed rows ∧
        (∀ entry, ¬c.Names rows entry → (rows.Holds entry ↔ db.rows.Holds entry)) ∧
        (c.IsRepeatable → c.change.run after = (.ok deed, after))) := by
  intro db
  have hdb : db.Serves := (History.isLaid_after (History.isLaid_start second) calls).serves
  have hrows : Sound db.rows := sound_after second calls
  refine ⟨fun c e => ⟨refused_of_run hdb hrows, fun h => ?_⟩, fun c e after h => ?_,
    fun u moment n other hother hname => ?_, fun id hash moment hnobody => ?_,
    fun role code hrole => ?_, fun c deed after => done_of_run hdb hrows⟩
  · rw [run_of_refused hdb hrows h]
  · have hrefused := refused_of_run hdb hrows (congrArg Prod.fst h)
    cases (run_of_refused hdb hrows hrefused).symm.trans h
    rfl
  · exact run_of_refused hdb hrows (.usernameTaken u moment n other hother hname)
  · exact run_of_refused hdb hrows (.nobody id hash moment hnobody)
  · obtain ⟨e, hrefused⟩ := refused_of_roleMissing hrows hrole code
    exact ⟨e, run_of_refused hdb hrows hrefused⟩

end Gatehouse.Database
