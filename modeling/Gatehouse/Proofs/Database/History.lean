import Gatehouse.Proofs.Database.Layout

/-! The history of a directory: what was achieved by the calls that succeeded, one after another,
from the day on which the directory was laid out. A call that fails leaves no trace. -/
namespace Gatehouse.Database

open Change (run_eq_ok)

/-! ## Calls and what they achieve -/

inductive Call where
  | createUser (user : NewUser) (second : Int)
  | updateHash (id : UserId) (hash : String) (second : Int)
  | deleteUser (id : UserId)
  | createRole (code : String) (fullAccess : Bool)
  | grant (role : RoleId) (code : String)
  | assign (id : UserId) (role : RoleId)

/-- What a call that succeeds has achieved. -/
inductive Deed where
  | created (user : User)
  | updated (id : UserId) (hash : String) (second : Int)
  | deleted (id : UserId)
  | roleMade (role : Role)
  | granted (role : RoleId) (code : String)
  | assigned (id : UserId) (role : RoleId)
deriving DecidableEq

def Call.change : Call → Change Error Deed
  | createUser user second => .created <$> Accounts.createUser user second
  | updateHash id hash second =>
    (fun _ => .updated id hash second) <$> Accounts.updateHash id hash second
  | deleteUser id => (fun _ => .deleted id) <$> Accounts.deleteUser id
  | createRole code fullAccess => .roleMade <$> Accounts.createRole code fullAccess
  | grant role code => (fun _ => .granted role code) <$> Accounts.grant role code
  | assign id role => (fun _ => .assigned id role) <$> Accounts.assign id role

/-- The deeds so far, oldest first, and the database that they have led to. -/
structure History where
  deeds : List Deed
  database : Database

namespace History

def next (h : History) (c : Call) : History :=
  match c.change.run h.database with
  | (.ok deed, db) => ⟨h.deeds ++ [deed], db⟩
  | (.error _, db) => ⟨h.deeds, db⟩

def after (h : History) (calls : List Call) : History := calls.foldl next h

/-- A directory that has just been laid out, at some second. -/
def start (second : Int) : History := ⟨[], (Layout.migrate second .empty).2⟩

end History

/-! ## Numbered rows -/

namespace Numbered

variable {Row : Type} {t : Numbered Row} {row : Row}

/-- The rows with one more, under the next number. -/
def push (t : Numbered Row) (row : Row) : Numbered Row :=
  ⟨t.rows.insert (t.last + 1) row, t.last + 1⟩

theorem getElem?_push (n : Nat) :
    (t.push row).rows[n]? = if t.last + 1 = n then some row else t.rows[n]? := by
  simp [push, Std.ExtTreeMap.getElem?_insert]

/-- The numbers of all rows have been given out, and there is an end to them. -/
structure Within (t : Numbered Row) : Prop where
  last_lt : t.last < limit
  number (n : Nat) (row : Row) (h : t.rows[n]? = some row) : 0 < n ∧ n ≤ t.last

theorem within_empty : (empty : Numbered Row).Within where
  last_lt := show 0 < limit by decide
  number n row h := by simp [empty] at h

theorem Within.push (h : t.Within) (hroom : t.last + 1 < limit) : (t.push row).Within where
  last_lt := hroom
  number n other hother := by
    rw [getElem?_push] at hother
    split at hother
    · rename_i hn
      exact ⟨hn ▸ Nat.succ_pos _, Nat.le_of_eq hn.symm⟩
    · obtain ⟨hpos, hle⟩ := h.number n other hother
      exact ⟨hpos, Nat.le_succ_of_le hle⟩

theorem Within.getElem?_of_lt (h : t.Within) {n : Nat} (hn : t.last < n) : t.rows[n]? = none := by
  cases hrow : t.rows[n]? with
  | none => rfl
  | some row => exact absurd (h.number n row hrow).2 (Nat.not_le.mpr hn)

theorem add_eq_ok {next : Numbered Row} {number : Nat → Row}
    (h : t.add number = .ok (row, next)) :
    t.last + 1 < limit ∧ row = number (t.last + 1) ∧ next = t.push row := by
  unfold add at h
  dsimp only at h
  split at h
  · rename_i hlimit
    cases h
    exact ⟨hlimit, rfl, rfl⟩
  · contradiction

theorem find?_eq_some {p : Row → Bool} {n : Nat} (h : t.find? p = some (n, row)) :
    t.rows[n]? = some row ∧ p row = true :=
  ⟨Std.ExtTreeMap.mem_toList_iff_getElem?_eq_some.mp (List.mem_of_find?_eq_some h),
    List.find?_some (p := fun entry : Nat × Row => p entry.2) h⟩

theorem find?_eq_none_iff {p : Row → Bool} :
    t.find? p = none ↔ ∀ (n : Nat) (row : Row), t.rows[n]? = some row → p row = false := by
  simp only [find?, List.find?_eq_none, Prod.forall,
    Std.ExtTreeMap.mem_toList_iff_getElem?_eq_some, Bool.not_eq_true]

end Numbered

/-! ## What a successful call does to the rows -/

/-- A user with another password hash. -/
def rehashed (user : User) (hash : String) (second : Int) : User :=
  { user with passwordHash := hash, updatedAt := ⟨second, 0⟩ }

/-- The pairs with one more, unless it is among them. -/
def link (pairs : List (Nat × Nat)) (pair : Nat × Nat) : List (Nat × Nat) :=
  if pairs.contains pair then pairs else pairs ++ [pair]

theorem mem_link {pairs : List (Nat × Nat)} {pair other : Nat × Nat} :
    other ∈ link pairs pair ↔ other ∈ pairs ∨ other = pair := by
  unfold link
  split
  · rename_i h
    rw [List.contains_iff_mem] at h
    constructor
    · exact .inl
    · rintro (hother | rfl)
      · exact hother
      · exact h
  · rw [List.mem_append, List.mem_singleton]

/-- All that a deed can have done to the rows, and the state in which it was possible. -/
inductive Effect (r : Rows) : Deed → Rows → Prop where
  | created (user : User) (hroom : r.users.last + 1 < Numbered.limit)
    (hid : user.id.value.toNat = r.users.last + 1)
    (hfree : ∀ (n : Nat) (other : User), r.users.rows[n]? = some other →
      other.username ≠ user.username) :
    Effect r (.created user) { r with users := r.users.push user }
  | updated (id : UserId) (hash : String) (second : Int) (user : User)
    (huser : r.users.rows[id.value.toNat]? = some user) :
    Effect r (.updated id hash second)
      { r with users.rows := r.users.rows.insert id.value.toNat (rehashed user hash second) }
  | deleted (id : UserId) (hnumber : id.value.toNat < Numbered.limit) :
    Effect r (.deleted id)
      { r with
        users := r.users.remove id.value.toNat
        userRoles := r.userRoles.filter (·.1 ≠ id.value.toNat) }
  | deletedNobody (id : UserId) (hnumber : Numbered.limit ≤ id.value.toNat) :
    Effect r (.deleted id) r
  | roleMade (role : Role) (hroom : r.roles.last + 1 < Numbered.limit)
    (hid : role.id.value.toNat = r.roles.last + 1)
    (hfree : ∀ (n : Nat) (other : Role), r.roles.rows[n]? = some other → other.code ≠ role.code) :
    Effect r (.roleMade role) { r with roles := r.roles.push role }
  | granted (role : RoleId) (code : String) (permission : Nat)
    (hcode : r.permissions.rows[permission]? = some code)
    (hrole : (role.value.toNat, permission) ∈ r.rolePermissions ∨
      (r.roles.rows[role.value.toNat]?).isSome) :
    Effect r (.granted role code)
      { r with rolePermissions := link r.rolePermissions (role.value.toNat, permission) }
  | grantedNew (role : RoleId) (code : String) (hroom : r.permissions.last + 1 < Numbered.limit)
    (hfree : ∀ (n : Nat) (other : String), r.permissions.rows[n]? = some other → other ≠ code)
    (hrole : (role.value.toNat, r.permissions.last + 1) ∈ r.rolePermissions ∨
      (r.roles.rows[role.value.toNat]?).isSome) :
    Effect r (.granted role code)
      { r with
        permissions := r.permissions.push code
        rolePermissions := link r.rolePermissions (role.value.toNat, r.permissions.last + 1) }
  | assigned (id : UserId) (role : RoleId)
    (hboth : (id.value.toNat, role.value.toNat) ∈ r.userRoles ∨
      (r.users.rows[id.value.toNat]?).isSome ∧ (r.roles.rows[role.value.toNat]?).isSome) :
    Effect r (.assigned id role)
      { r with userRoles := link r.userRoles (id.value.toNat, role.value.toNat) }

section

variable {db after : Database}

/-- Rows that are added after a search for their like has found none. -/
theorem ok_of_addition {Row : Type} {t : Numbered Row} {p : Row → Bool} {fault : Fault}
    {row : Nat → Row} {value : Row} {rows : Rows} (put : Numbered Row → Rows)
    (h : (do
      if (t.find? p).isSome then throw fault
      let (value, t) ← t.add row
      return (value, put t)) = Except.ok (value, rows)) :
    t.last + 1 < Numbered.limit ∧ value = row (t.last + 1) ∧ rows = put (t.push value) ∧
      ∀ (n : Nat) (other : Row), t.rows[n]? = some other → p other = false := by
  split at h
  · contradiction
  · rename_i hfound
    obtain ⟨⟨added, next⟩, hadd, hanswer⟩ := ok_of_bind h
    obtain ⟨hroom, hadded, hnext⟩ := Numbered.add_eq_ok hadd
    cases hanswer
    refine ⟨hroom, hadded, congrArg put hnext, Numbered.find?_eq_none_iff.mp ?_⟩
    rwa [Bool.not_eq_true, Option.isSome_eq_false_iff, Option.isNone_iff_eq_none] at hfound

theorem toNat_ofNat_of_lt_limit {n : Nat} (h : n < Numbered.limit) : (UInt64.ofNat n).toNat = n :=
  UInt64.toNat_ofNat_of_lt (Nat.lt_trans h (by decide))

theorem effect_createUser {u : NewUser} {second : Int} {user : User}
    (h : StateT.run (Accounts.createUser u second) db = .ok (user, after)) :
    ∃ rows, Effect db.rows (.created user) rows ∧ after = { db with rows } := by
  obtain ⟨rows, hbody, rfl⟩ := ok_of_update (run_eq_ok h)
  obtain ⟨hroom, rfl, rfl, hfree⟩ := ok_of_addition (fun users => { db.rows with users }) hbody
  refine ⟨_, .created _ hroom (toNat_ofNat_of_lt_limit hroom) fun n other hother hname => ?_, rfl⟩
  exact absurd hname (of_decide_eq_false (hfree n other hother))

theorem effect_createRole {code : String} {fullAccess : Bool} {role : Role}
    (h : StateT.run (Accounts.createRole code fullAccess) db = .ok (role, after)) :
    ∃ rows, Effect db.rows (.roleMade role) rows ∧ after = { db with rows } := by
  obtain ⟨_, middle, hrequired, hmade⟩ := ok_of_run_bind h
  obtain rfl := ok_of_run_lift hrequired
  obtain ⟨rows, hbody, rfl⟩ := ok_of_update (run_eq_ok hmade)
  obtain ⟨hroom, rfl, rfl, hfree⟩ := ok_of_addition (fun roles => { db.rows with roles }) hbody
  refine ⟨_, .roleMade _ hroom (toNat_ofNat_of_lt_limit hroom) fun n other hother hcode => ?_, rfl⟩
  exact absurd hcode (of_decide_eq_false (hfree n other hother))

theorem effect_updateHash {id : UserId} {hash : String} {second : Int} {answer : Unit}
    (h : StateT.run (Accounts.updateHash id hash second) db = .ok (answer, after)) :
    ∃ rows, Effect db.rows (.updated id hash second) rows ∧ after = { db with rows } := by
  unfold Accounts.updateHash Accounts.rowOf? at h
  by_cases hnumber : id.value.toNat < Numbered.limit
  · simp only [if_pos hnumber] at h
    obtain ⟨isThere, middle, hput, hrest⟩ := ok_of_run_bind h
    obtain ⟨rows, hbody, rfl⟩ := ok_of_update (run_eq_ok hput)
    cases hfound : db.rows.users.rows[id.value.toNat]? with
    | none =>
      simp only [hfound] at hbody
      cases hbody
      contradiction
    | some user =>
      simp only [hfound] at hbody
      cases hbody
      cases hrest
      exact ⟨_, .updated id hash second user hfound, rfl⟩
  · simp only [if_neg hnumber] at h
    contradiction

theorem effect_deleteUser {id : UserId} {answer : Unit}
    (h : StateT.run (Accounts.deleteUser id) db = .ok (answer, after)) :
    ∃ rows, Effect db.rows (.deleted id) rows ∧ after = { db with rows } := by
  unfold Accounts.deleteUser Accounts.rowOf? at h
  by_cases hnumber : id.value.toNat < Numbered.limit
  · simp only [if_pos hnumber] at h
    obtain ⟨rows, hbody, rfl⟩ := ok_of_update (run_eq_ok h)
    cases hbody
    exact ⟨_, .deleted id hnumber, rfl⟩
  · simp only [if_neg hnumber] at h
    cases h
    exact ⟨_, .deletedNobody id (Nat.le_of_not_lt hnumber), rfl⟩

theorem ok_of_linking {pairs : List (Nat × Nat)} {pair : Nat × Nat} {possible : Prop}
    [Decidable possible] {r rows : Rows} {answer : Unit} (put : List (Nat × Nat) → Rows)
    (hput : put pairs = r)
    (h : (if pairs.contains pair then .ok ((), r)
      else if possible then .ok ((), put (pairs ++ [pair]))
      else .error Fault.foreignKey) = Except.ok (answer, rows)) :
    rows = put (link pairs pair) ∧ (pair ∈ pairs ∨ possible) := by
  unfold link
  split at h
  · rename_i hpair
    cases h
    rw [if_pos hpair]
    exact ⟨hput.symm, .inl (List.contains_iff_mem.mp hpair)⟩
  · rename_i hpair
    rw [if_neg hpair]
    split at h
    · rename_i hpossible
      cases h
      exact ⟨rfl, .inr hpossible⟩
    · contradiction

theorem effect_assign {id : UserId} {role : RoleId} {answer : Unit}
    (h : StateT.run (Accounts.assign id role) db = .ok (answer, after)) :
    ∃ rows, Effect db.rows (.assigned id role) rows ∧ after = { db with rows } := by
  unfold Accounts.assign Accounts.rowOf? at h
  by_cases hnumber : id.value.toNat < Numbered.limit
  · simp only [if_pos hnumber, Std.ExtTreeMap.contains_eq_isSome_getElem?] at h
    obtain ⟨rows, hbody, rfl⟩ := ok_of_update (run_eq_ok h)
    obtain ⟨rfl, hboth⟩ := ok_of_linking (fun userRoles => { db.rows with userRoles }) rfl hbody
    exact ⟨_, .assigned id role hboth, rfl⟩
  · simp only [if_neg hnumber] at h
    contradiction

theorem effect_grant {role : RoleId} {code : String} {answer : Unit}
    (h : StateT.run (Accounts.grant role code) db = .ok (answer, after)) :
    ∃ rows, Effect db.rows (.granted role code) rows ∧ after = { db with rows } := by
  unfold Accounts.grant at h
  obtain ⟨_, start, hrequired, hrest⟩ := ok_of_run_bind h
  obtain rfl := ok_of_run_lift hrequired
  obtain ⟨_, middle, hget, hrest⟩ := ok_of_run_bind hrest
  cases hget
  split at hrest
  · contradiction
  · obtain ⟨permission, middle, hensured, hgranted⟩ := ok_of_run_bind hrest
    obtain ⟨rows, hbody, rfl⟩ := ok_of_update (run_eq_ok hgranted)
    obtain ⟨ensured, hpermission, rfl⟩ := ok_of_update (run_eq_ok hensured)
    simp only [Std.ExtTreeMap.contains_eq_isSome_getElem?] at hbody
    obtain ⟨rfl, hrole⟩ :=
      ok_of_linking (fun rolePermissions => { ensured with rolePermissions }) rfl hbody
    -- The link is made in the rows to which the code has been added, if it was not known.
    cases hfound : db.rows.permissions.find? (· = code) with
    | some entry =>
      obtain ⟨n, known⟩ := entry
      simp only [hfound] at hpermission
      cases hpermission
      obtain ⟨hcode, hknown⟩ := Numbered.find?_eq_some hfound
      cases of_decide_eq_true hknown
      exact ⟨_, .granted role _ _ hcode hrole, rfl⟩
    | none =>
      simp only [hfound] at hpermission
      obtain ⟨⟨added, permissions⟩, hadd, hanswer⟩ := ok_of_bind hpermission
      obtain ⟨hroom, hadded, hpermissions⟩ := Numbered.add_eq_ok hadd
      cases hanswer
      subst hadded hpermissions
      refine ⟨_, .grantedNew role added hroom (fun n other hother => ?_) hrole, rfl⟩
      exact of_decide_eq_false (Numbered.find?_eq_none_iff.mp hfound n other hother)

theorem effect_change {c : Call} {deed : Deed}
    (h : StateT.run c.change db = .ok (deed, after)) :
    ∃ rows, Effect db.rows deed rows ∧ after = { db with rows } := by
  cases c with
  | createUser u second =>
    obtain ⟨user, hrun, rfl⟩ := ok_of_run_map h
    exact effect_createUser hrun
  | updateHash id hash second =>
    obtain ⟨_, hrun, rfl⟩ := ok_of_run_map h
    exact effect_updateHash hrun
  | deleteUser id =>
    obtain ⟨_, hrun, rfl⟩ := ok_of_run_map h
    exact effect_deleteUser hrun
  | createRole code fullAccess =>
    obtain ⟨role, hrun, rfl⟩ := ok_of_run_map h
    exact effect_createRole hrun
  | grant role code =>
    obtain ⟨_, hrun, rfl⟩ := ok_of_run_map h
    exact effect_grant hrun
  | assign id role =>
    obtain ⟨_, hrun, rfl⟩ := ok_of_run_map h
    exact effect_assign hrun

end

/-! ## Histories -/

namespace History

/-- A call changes nothing, or it is a deed. -/
theorem next_cases (h : History) (c : Call) :
    h.next c = h ∨ ∃ deed rows, Effect h.database.rows deed rows ∧
      h.next c = ⟨h.deeds ++ [deed], { h.database with rows }⟩ := by
  unfold next Change.run
  rcases hrun : StateT.run c.change h.database with e | ⟨deed, after⟩
  · exact .inl rfl
  · obtain ⟨rows, heffect, rfl⟩ := effect_change hrun
    exact .inr ⟨deed, rows, heffect, rfl⟩

/-- What every deed keeps holds after all calls. -/
theorem after_induction {P : History → Prop} {h : History} (hstart : P h)
    (hdeed : ∀ (h : History) deed rows, P h → Effect h.database.rows deed rows →
      P ⟨h.deeds ++ [deed], { h.database with rows }⟩)
    (calls : List Call) : P (h.after calls) := by
  induction calls generalizing h with
  | nil => exact hstart
  | cons c calls ih =>
    refine ih (h := h.next c) ?_
    obtain hsame | ⟨deed, rows, heffect, hnext⟩ := h.next_cases c
    · rw [hsame]
      exact hstart
    · rw [hnext]
      exact hdeed h deed rows hstart heffect

theorem isLaid_start (second : Int) : (start second).database.IsLaid := by
  rw [start, Layout.migrate_empty]
  exact ⟨⟨rfl, rfl⟩, rfl⟩

theorem isLaid_after {h : History} (hlaid : h.database.IsLaid) (calls : List Call) :
    (h.after calls).database.IsLaid :=
  after_induction (P := fun h => h.database.IsLaid) hlaid
    (fun _ _ _ hlaid _ => ⟨⟨hlaid.isOpen, hlaid.unbarred⟩, hlaid.schema_eq⟩) calls

end History

end Gatehouse.Database
