import Gatehouse.Proofs.Database.History

/-! What calls come to in a database that serves them. It depends on the rows alone: on whether they
allow what is asked for, and on what they are. -/
namespace Gatehouse.Database

open Accounts (failure)

/-! ## Sound rows -/

/-- Numbers have been given out as they should, and links refer to rows that are there. -/
structure Sound (r : Rows) : Prop where
  users : r.users.Within
  roles : r.roles.Within
  permissions : r.permissions.Within
  assigned (n k : Nat) (h : (n, k) ∈ r.userRoles) :
    (r.users.rows[n]?).isSome ∧ (r.roles.rows[k]?).isSome
  granted (k p : Nat) (h : (k, p) ∈ r.rolePermissions) :
    (r.roles.rows[k]?).isSome ∧ (r.permissions.rows[p]?).isSome

theorem sound_empty : Sound .empty where
  users := Numbered.within_empty
  roles := Numbered.within_empty
  permissions := Numbered.within_empty
  assigned n k h := by cases h
  granted k p h := by cases h

theorem Sound.withRecords {r : Rows} (h : Sound r) (applied : Std.ExtTreeMap Int Applied) :
    Sound { r with applied } := { h with }

namespace Numbered

variable {Row : Type} {t : Numbered Row}

theorem isSome_push {row : Row} {n : Nat} (h : (t.rows[n]?).isSome) :
    ((t.push row).rows[n]?).isSome := by
  rw [getElem?_push]
  split
  · rfl
  · exact h

theorem getElem?_remove (n k : Nat) :
    (t.remove n).rows[k]? = if n = k then none else t.rows[k]? := by
  simp [remove, Std.ExtTreeMap.getElem?_erase]

theorem Within.remove (h : t.Within) (n : Nat) : (t.remove n).Within where
  last_lt := h.last_lt
  number k row hrow := by
    rw [getElem?_remove] at hrow
    split at hrow
    · contradiction
    · exact h.number k row hrow

end Numbered

theorem getElem?_rehashed {users : Numbered User} {n : Nat} {user : User} {hash : String}
    {second : Int} (k : Nat) :
    (users.rows.insert n (rehashed user hash second))[k]? =
      if n = k then some (rehashed user hash second) else users.rows[k]? := by
  simp [Std.ExtTreeMap.getElem?_insert]

theorem sound_effect {r rows : Rows} {deed : Deed} (h : Sound r) (heffect : Effect r deed rows) :
    Sound rows := by
  cases heffect with
  | created user hroom hid hfree =>
    exact { h with
      users := h.users.push hroom
      assigned n k hpair := ⟨Numbered.isSome_push (h.assigned n k hpair).1,
        (h.assigned n k hpair).2⟩ }
  | updated id hash second user huser =>
    refine { h with
      users := ⟨h.users.last_lt, fun n other hother => ?_⟩
      assigned := fun n k hpair => ⟨?_, (h.assigned n k hpair).2⟩ }
    · rw [getElem?_rehashed] at hother
      split at hother
      · rename_i hn
        exact hn ▸ h.users.number _ user huser
      · exact h.users.number n other hother
    · rw [getElem?_rehashed]
      split
      · rfl
      · exact (h.assigned n k hpair).1
  | deleted id hnumber =>
    refine { h with
      users := h.users.remove _
      assigned := fun n k hpair => ?_ }
    obtain ⟨hpair, hother⟩ := List.mem_filter.mp hpair
    rw [Numbered.getElem?_remove, if_neg (Ne.symm (of_decide_eq_true hother))]
    exact h.assigned n k hpair
  | deletedNobody id hnumber => exact h
  | roleMade role hroom hid hfree =>
    exact { h with
      roles := h.roles.push hroom
      assigned n k hpair := ⟨(h.assigned n k hpair).1,
        Numbered.isSome_push (h.assigned n k hpair).2⟩
      granted k p hpair := ⟨Numbered.isSome_push (h.granted k p hpair).1,
        (h.granted k p hpair).2⟩ }
  | granted role code permission hcode hrole =>
    refine { h with granted := fun k p hpair => ?_ }
    rcases mem_link.mp hpair with hpair | hpair
    · exact h.granted k p hpair
    · cases hpair
      refine ⟨hrole.elim (fun hpair => (h.granted _ _ hpair).1) id, ?_⟩
      rw [hcode]
      rfl
  | grantedNew role code hroom hfree hrole =>
    refine { h with
      permissions := h.permissions.push hroom
      granted := fun k p hpair => ?_ }
    rcases mem_link.mp hpair with hpair | hpair
    · exact ⟨(h.granted k p hpair).1, Numbered.isSome_push (h.granted k p hpair).2⟩
    · cases hpair
      refine ⟨hrole.elim (fun hpair => (h.granted _ _ hpair).1) id, ?_⟩
      rw [Numbered.getElem?_push, if_pos rfl]
      rfl
  | assigned id role hboth =>
    refine { h with assigned := fun n k hpair => ?_ }
    rcases mem_link.mp hpair with hpair | hpair
    · exact h.assigned n k hpair
    · cases hpair
      exact hboth.elim (h.assigned _ _) fun hboth => hboth

/-! ## Calls upon rows -/

namespace Numbered

variable {Row ε : Type}

/-- One more row, unless there is one like it or no number is left. -/
def addNew (t : Numbered Row) (like : Row → Bool) (taken full : ε) (row : Nat → Row) :
    Except ε (Row × Numbered Row) :=
  if (t.find? like).isSome then .error taken
  else if t.last + 1 < limit then .ok (row (t.last + 1), t.push (row (t.last + 1)))
  else .error full

/-- The number of a row of that very value, which is added if there is none. -/
def ensure [DecidableEq Row] (t : Numbered Row) (row : Row) : Nat × Numbered Row :=
  match t.find? (· = row) with
  | some (n, _) => (n, t)
  | none => (t.last + 1, t.push row)

end Numbered

/-- A new user under some number. -/
def NewUser.enrolled (u : NewUser) (second : Int) (n : Nat) : User where
  id := ⟨.ofNat n⟩
  username := u.username
  fullname := u.fullname
  email := u.email
  passwordHash := u.passwordHash
  createdAt := ⟨second, 0⟩
  updatedAt := ⟨second, 0⟩

namespace Rows

def createUser (r : Rows) (u : NewUser) (second : Int) : Except Error (User × Rows) :=
  (r.users.addNew (·.username = u.username)
    (.storage (.constraint s!"Username {u.username} is taken")) (failure none .full)
    (u.enrolled second)).map fun (user, users) => (user, { r with users })

def updateHash (r : Rows) (id : UserId) (hash : String) (second : Int) :
    Except Error (Unit × Rows) :=
  match r.users.rows[id.value.toNat]? with
  | some user => .ok ((), { r with
      users.rows := r.users.rows.insert id.value.toNat (rehashed user hash second) })
  | none => .error (.storage .notFound)

def deleteUser (r : Rows) (id : UserId) : Rows :=
  { r with
    users := r.users.remove id.value.toNat
    userRoles := r.userRoles.filter (·.1 ≠ id.value.toNat) }

def createRole (r : Rows) (code : String) (fullAccess : Bool) : Except Error (Role × Rows) :=
  if (Text.trim code).isEmpty then .error (.validation (.missingField "Role code is required"))
  else
    let context := some "Failed to create role"
    (r.roles.addNew (·.code = code) (failure context (.notUnique "roles.code"))
      (failure context .full) fun n => ⟨⟨.ofNat n⟩, code, fullAccess⟩).map
        fun (role, roles) => (role, { r with roles })

def grant (r : Rows) (role : RoleId) (code : String) : Except Error (Unit × Rows) :=
  let (permission, permissions) := r.permissions.ensure code
  if (Text.trim code).isEmpty then
    .error (.validation (.missingField "Permission code is required"))
  else if Numbered.limit ≤ permissions.last then
    .error (failure (some "Failed to create permission") .full)
  else if (r.roles.rows[role.value.toNat]?).isSome then
    let rolePermissions := link r.rolePermissions (role.value.toNat, permission)
    .ok ((), { r with permissions, rolePermissions })
  else .error (failure (some "Failed to grant permission") .foreignKey)

def assign (r : Rows) (id : UserId) (role : RoleId) : Except Error (Unit × Rows) :=
  if Numbered.limit ≤ id.value.toNat then .error (.storage .notFound)
  else if (r.users.rows[id.value.toNat]?).isSome ∧ (r.roles.rows[role.value.toNat]?).isSome then
    .ok ((), { r with userRoles := link r.userRoles (id.value.toNat, role.value.toNat) })
  else .error (failure (some "Failed to assign role") .foreignKey)

end Rows

theorem Numbered.remove_of_none {Row : Type} {t : Numbered Row} {n : Nat}
    (h : t.rows[n]? = none) : t.remove n = t := by
  obtain ⟨rows, last⟩ := t
  have hrows : rows.erase n = rows := by
    apply Std.ExtTreeMap.ext_getElem?
    intro k
    rw [Std.ExtTreeMap.getElem?_erase]
    split
    · rename_i hk
      rw [← Std.LawfulEqCmp.eq_of_compare hk]
      exact h.symm
    · rfl
  rw [remove, hrows]

/-- Nothing is lost with a user who is not there. -/
theorem Sound.deleteUser_eq_self {r : Rows} (h : Sound r) {id : UserId}
    (hnobody : r.users.rows[id.value.toNat]? = none) : r.deleteUser id = r := by
  have hlinks : r.userRoles.filter (·.1 ≠ id.value.toNat) = r.userRoles := by
    apply List.filter_eq_self.mpr
    rintro ⟨n, k⟩ hpair
    have huser := (h.assigned n k hpair).1
    apply decide_eq_true
    rintro rfl
    rw [hnobody] at huser
    contradiction
  rw [Rows.deleteUser, Numbered.remove_of_none hnobody, hlinks]

/-- What a call achieves and makes of the rows, or why it is refused. -/
def Call.outcome (r : Rows) : Call → Except Error (Deed × Rows)
  | createUser u second =>
    (r.createUser u second).map fun (user, rows) => (.created user, rows)
  | updateHash id hash second =>
    (r.updateHash id hash second).map fun (_, rows) => (.updated id hash second, rows)
  | deleteUser id => .ok (.deleted id, r.deleteUser id)
  | createRole code fullAccess =>
    (r.createRole code fullAccess).map fun (role, rows) => (.roleMade role, rows)
  | grant role code => (r.grant role code).map fun (_, rows) => (.granted role code, rows)
  | assign id role => (r.assign id role).map fun (_, rows) => (.assigned id role, rows)

/-! ## Calls upon a database -/

/-- A result for the rows as one for the database that has them. -/
def inside {α : Type} (db : Database) (result : Except Error (α × Rows)) :
    Except Error (α × Database) :=
  result.map fun (answer, rows) => (answer, { db with rows })

section

variable {db : Database}

theorem run_update_of_free {α : Type} (hdb : db.IsFree) {resolve : Schema → Except Fault Unit}
    {body : Rows → Except Fault (α × Rows)} (hresolve : resolve db.schema = .ok ())
    (f : Fault → Error) :
    StateT.run ((update resolve body).mapError f) db = db.inside ((body db.rows).mapError f) := by
  change Except.mapError f (StateT.run (update resolve body) db) = _
  rw [run_update hdb hresolve]
  cases body db.rows <;> rfl

theorem run_map_of_rows {α β : Type} {c : Change Error α} {result : Except Error (α × Rows)}
    (h : StateT.run c db = db.inside result) (f : α → β) :
    StateT.run (f <$> c) db = db.inside (result.map fun (answer, rows) => (f answer, rows)) := by
  rw [StateT.run_map, h]
  cases result <;> rfl

theorem addNew_eq {Row : Type} {t : Numbered Row} {like : Row → Bool} {taken : Fault}
    {row : Nat → Row} (put : Numbered Row → Rows) (f : Fault → Error) :
    Except.mapError f (do
      if (t.find? like).isSome then throw taken
      let (value, t) ← t.add row
      return (value, put t)) =
    (t.addNew like (f taken) (f .full) row).map fun (value, t) => (value, put t) := by
  unfold Numbered.addNew Numbered.add
  split
  · rfl
  · by_cases hroom : t.last + 1 < Numbered.limit
    · simp only [if_pos hroom]
      rfl
    · simp only [if_neg hroom]
      rfl

theorem run_createUser (hdb : db.Serves) (u : NewUser) (second : Int) :
    StateT.run (Accounts.createUser u second) db = db.inside (db.rows.createUser u second) := by
  have hinsert : db.schema.resolveInsert "users" "username" = .ok () :=
    Schema.resolveInsert_of_has (hdb.has "users" (by decide)) _
  refine (run_update_of_free hdb.toIsFree hinsert _).trans ?_
  exact congrArg db.inside (addNew_eq (fun users => { db.rows with users }) _)

theorem run_createRole (hdb : db.Serves) (code : String) (fullAccess : Bool) :
    StateT.run (Accounts.createRole code fullAccess) db =
      db.inside (db.rows.createRole code fullAccess) := by
  have hinsert : db.schema.resolveInsert "roles" "code" = .ok () :=
    Schema.resolveInsert_of_has (hdb.has "roles" (by decide)) _
  unfold Accounts.createRole Accounts.requireCode Rows.createRole
  by_cases hblank : (Text.trim code).isEmpty = true
  · rw [if_pos hblank, if_pos hblank]
    rfl
  · rw [if_neg hblank, if_neg hblank]
    refine (run_update_of_free hdb.toIsFree hinsert _).trans ?_
    exact congrArg db.inside (addNew_eq (fun roles => { db.rows with roles }) _)

theorem run_updateHash (hdb : db.Serves) (hrows : Sound db.rows) (id : UserId) (hash : String)
    (second : Int) :
    StateT.run (Accounts.updateHash id hash second) db =
      db.inside (db.rows.updateHash id hash second) := by
  have husers : db.schema.resolve ["users"] [("users", "password_hash")] = .ok () :=
    hdb.resolve (by decide) (by decide)
  unfold Accounts.updateHash Accounts.rowOf? Rows.updateHash
  by_cases hnumber : id.value.toNat < Numbered.limit
  · simp only [if_pos hnumber]
    have hput : StateT.run (Accounts.plainly (Accounts.putHash id.value.toNat hash second)) db =
        _ := run_update_of_free hdb.toIsFree husers _
    cases hfound : db.rows.users.rows[id.value.toNat]? with
    | none =>
      rw [hfound] at hput
      exact (run_bind hput).trans rfl
    | some user =>
      rw [hfound] at hput
      exact (run_bind hput).trans rfl
  · have hnobody := hrows.users.getElem?_of_lt
      (Nat.lt_of_lt_of_le hrows.users.last_lt (Nat.le_of_not_lt hnumber))
    simp only [if_neg hnumber, hnobody]
    rfl

theorem run_deleteUser (hdb : db.Serves) (hrows : Sound db.rows) (id : UserId) :
    StateT.run (Accounts.deleteUser id) db = db.inside (.ok ((), db.rows.deleteUser id)) := by
  have hdelete : db.schema.resolveDelete "users" = .ok () :=
    Schema.resolveDelete_of_has (hdb.has "users" (by decide)) fun child _ => hdb.parents child
  unfold Accounts.deleteUser Accounts.rowOf?
  by_cases hnumber : id.value.toNat < Numbered.limit
  · simp only [if_pos hnumber]
    exact run_update_of_free hdb.toIsFree hdelete _
  · have hnobody := hrows.users.getElem?_of_lt
      (Nat.lt_of_lt_of_le hrows.users.last_lt (Nat.le_of_not_lt hnumber))
    simp only [if_neg hnumber, hrows.deleteUser_eq_self hnobody]
    rfl

theorem linking_eq {pairs : List (Nat × Nat)} {pair : Nat × Nat} {possible : Prop}
    [Decidable possible] (hpossible : pair ∈ pairs → possible) {r : Rows}
    (put : List (Nat × Nat) → Rows) (hput : put pairs = r) :
    (if pairs.contains pair then Except.ok ((), r)
      else if possible then .ok ((), put (pairs ++ [pair]))
      else .error Fault.foreignKey) =
    if possible then .ok ((), put (link pairs pair)) else .error .foreignKey := by
  unfold link
  split
  · rename_i hpair
    rw [if_pos (hpossible (List.contains_iff_mem.mp hpair)), hput]
  · rfl

theorem run_assign (hdb : db.Serves) (hrows : Sound db.rows) (id : UserId) (role : RoleId) :
    StateT.run (Accounts.assign id role) db = db.inside (db.rows.assign id role) := by
  have hassign : Accounts.resolveAssign db.schema = .ok () := by
    unfold Accounts.resolveAssign
    rw [Schema.resolveInsert_of_has (hdb.has "user_roles" (by decide)),
      Schema.resolveParents_of_has (hdb.parents _)]
    rfl
  unfold Accounts.assign Accounts.rowOf? Rows.assign
  by_cases hnumber : id.value.toNat < Numbered.limit
  · simp only [if_pos hnumber, if_neg (Nat.not_le.mpr hnumber),
      Std.ExtTreeMap.contains_eq_isSome_getElem?]
    refine (run_update_of_free hdb.toIsFree hassign _).trans (congrArg db.inside ?_)
    rw [linking_eq (hrows.assigned _ _) (fun userRoles => { db.rows with userRoles }) rfl]
    split <;> rfl
  · simp only [if_neg hnumber, if_pos (Nat.le_of_not_lt hnumber)]
    rfl

theorem run_ensurePermission (hdb : db.Serves) (hrows : Sound db.rows) (f : Fault → Error)
    (code : String) :
    StateT.run ((Accounts.ensurePermission code).mapError f) db =
      if Numbered.limit ≤ (db.rows.permissions.ensure code).2.last then .error (f .full)
      else .ok ((db.rows.permissions.ensure code).1,
        { db with rows := { db.rows with
          permissions := (db.rows.permissions.ensure code).2 } }) := by
  have hinsert : db.schema.resolveInsert "permissions" "code" = .ok () :=
    Schema.resolveInsert_of_has (hdb.has "permissions" (by decide)) _
  refine (run_update_of_free hdb.toIsFree hinsert f).trans ?_
  unfold Numbered.ensure Numbered.add
  cases db.rows.permissions.find? (· = code) with
  | some entry =>
    rw [if_neg (Nat.not_le.mpr hrows.permissions.last_lt)]
    rfl
  | none =>
    by_cases hroom : db.rows.permissions.last + 1 < Numbered.limit
    · have hfits : ¬Numbered.limit ≤ (db.rows.permissions.push code).last := Nat.not_le.mpr hroom
      simp only [if_pos hroom, if_neg hfits]
      rfl
    · have hfull : Numbered.limit ≤ (db.rows.permissions.push code).last :=
        Nat.le_of_not_lt hroom
      simp only [if_neg hroom, if_pos hfull]
      rfl

theorem run_grant (hdb : db.Serves) (hrows : Sound db.rows) (role : RoleId) (code : String) :
    StateT.run (Accounts.grant role code) db = db.inside (db.rows.grant role code) := by
  have hgrant : Accounts.resolveGrant db.schema = .ok () := by
    unfold Accounts.resolveGrant
    rw [Schema.resolveInsert_of_has (hdb.has "role_permissions" (by decide)),
      Schema.resolveParents_of_has (hdb.parents _)]
    rfl
  unfold Accounts.grant Accounts.requireCode Rows.grant
  by_cases hblank : (Text.trim code).isEmpty = true
  · simp only [if_pos hblank]
    rfl
  · simp only [if_neg hblank]
    have hensure := run_ensurePermission hdb hrows
      (failure (some "Failed to create permission")) code
    have hrequired : StateT.run (liftM (Except.ok () : Except Error Unit) : Change Error Unit) db =
        .ok ((), db) := rfl
    have hget : StateT.run (get : Change Error Database) db = .ok (db, db) := rfl
    have hopen : ¬db.closed = true := by simp [hdb.isOpen]
    refine (run_bind hrequired).trans ((run_bind hget).trans ?_)
    rw [if_neg hopen]
    generalize db.rows.permissions.ensure code = ensured at hensure ⊢
    obtain ⟨permission, permissions⟩ := ensured
    dsimp only at hensure ⊢
    by_cases hfull : Numbered.limit ≤ permissions.last
    · rw [if_pos hfull] at hensure ⊢
      exact run_bind_error hensure
    · rw [if_neg hfull] at hensure ⊢
      refine (run_bind hensure).trans ?_
      have hfree : IsFree { db with rows := { db.rows with permissions } } :=
        ⟨hdb.isOpen, hdb.unbarred⟩
      refine (run_update_of_free hfree hgrant _).trans ?_
      simp only [Std.ExtTreeMap.contains_eq_isSome_getElem?]
      rw [linking_eq (fun hpair => (hrows.granted _ _ hpair).1)
        (fun rolePermissions => { db.rows with permissions, rolePermissions }) rfl]
      split <;> rfl

theorem run_change (hdb : db.Serves) (hrows : Sound db.rows) (c : Call) :
    StateT.run c.change db = db.inside (c.outcome db.rows) := by
  cases c with
  | createUser u second => exact run_map_of_rows (run_createUser hdb u second) _
  | updateHash id hash second => exact run_map_of_rows (run_updateHash hdb hrows id hash second) _
  | deleteUser id => exact run_map_of_rows (run_deleteUser hdb hrows id) _
  | createRole code fullAccess => exact run_map_of_rows (run_createRole hdb code fullAccess) _
  | grant role code => exact run_map_of_rows (run_grant hdb hrows role code) _
  | assign id role => exact run_map_of_rows (run_assign hdb hrows id role) _

theorem change_run_eq (hdb : db.Serves) (hrows : Sound db.rows) (c : Call) :
    c.change.run db = match c.outcome db.rows with
      | .ok (deed, rows) => (.ok deed, { db with rows })
      | .error e => (.error e, db) := by
  unfold Change.run
  rw [run_change hdb hrows]
  cases c.outcome db.rows <;> rfl

end

end Gatehouse.Database
