import Gatehouse.Proofs.Database.Standing
import Gatehouse.Proofs.User.Access

/-! What a user may do, told by the history alone: a role that was assigned to the user gives full
access or the codes that were granted to it. The tables of roles, permissions and their links say
the same, whatever came before. -/
namespace Gatehouse.Database

/-- Whether a deed made a role that is assigned to a user and gives a code. -/
def Deed.entitles (deeds : List Deed) (id : UserId) (code : String) : Deed → Bool
  | roleMade role =>
    deeds.contains (.assigned id role.id) &&
      (role.fullAccess || deeds.contains (.granted role.id code))
  | _ => false

/-- Whether some role that was made and assigned to a user has full access or was granted a code. -/
def entitled (deeds : List Deed) (id : UserId) (code : String) : Bool :=
  deeds.any (Deed.entitles deeds id code)

variable {deeds : List Deed} {deed : Deed}

theorem entitled_eq_true_iff {id : UserId} {code : String} :
    entitled deeds id code = true ↔
      ∃ role, .roleMade role ∈ deeds ∧ .assigned id role.id ∈ deeds ∧
        (role.fullAccess = true ∨ .granted role.id code ∈ deeds) := by
  rw [entitled, List.any_eq_true]
  constructor
  · rintro ⟨deed, hdeed, hentitles⟩
    cases deed with
    | roleMade role =>
      simp only [Deed.entitles, Bool.and_eq_true, Bool.or_eq_true, List.contains_iff_mem]
        at hentitles
      exact ⟨role, hdeed, hentitles⟩
    | _ => contradiction
  · rintro ⟨role, hmade, hentitles⟩
    refine ⟨.roleMade role, hmade, ?_⟩
    simpa only [Deed.entitles, Bool.and_eq_true, Bool.or_eq_true, List.contains_iff_mem] using
      hentitles

theorem RoleId.toNat_inj {a b : RoleId} : a.value.toNat = b.value.toNat ↔ a = b := by
  obtain ⟨a⟩ := a
  obtain ⟨b⟩ := b
  rw [UInt64.toNat_inj, RoleId.mk.injEq]

/-! ## The rows of roles -/

structure RolesMade (deeds : List Deed) (roles : Numbered Role) : Prop where
  within : roles.Within
  numbered (n : Nat) (role : Role) (h : roles.rows[n]? = some role) : role.id.value.toNat = n
  made (role : Role) : roles.rows[role.id.value.toNat]? = some role ↔ .roleMade role ∈ deeds

theorem rolesMade_empty : RolesMade [] .empty where
  within := Numbered.within_empty
  numbered n role h := by simp [Numbered.empty] at h
  made role := by simp [Numbered.empty]

namespace RolesMade

variable {roles : Numbered Role}

theorem apart (h : RolesMade deeds roles) (hdeed : ∀ role, deed ≠ .roleMade role) :
    RolesMade (deeds ++ [deed]) roles where
  within := h.within
  numbered := h.numbered
  made role := by
    rw [h.made, List.mem_append, List.mem_singleton, or_iff_left (hdeed role).symm]

theorem push (h : RolesMade deeds roles) {role : Role} (hroom : roles.last + 1 < Numbered.limit)
    (hid : role.id.value.toNat = roles.last + 1) :
    RolesMade (deeds ++ [.roleMade role]) (roles.push role) where
  within := h.within.push hroom
  numbered n other hother := by
    rw [Numbered.getElem?_push] at hother
    split at hother
    · rename_i hn
      cases hother
      rw [hid, hn]
    · exact h.numbered n other hother
  made other := by
    rw [List.mem_append, List.mem_singleton, ← h.made, Numbered.getElem?_push, Deed.roleMade.injEq]
    split
    · rename_i hn
      rw [h.within.getElem?_of_lt (by omega), Option.some.injEq, eq_comm (a := role)]
      simp
    · rename_i hn
      have hne : other ≠ role := by
        rintro rfl
        exact hn hid.symm
      rw [or_iff_left hne]

end RolesMade

theorem rolesMade_effect {r rows : Rows} (h : RolesMade deeds r.roles)
    (heffect : Effect r deed rows) : RolesMade (deeds ++ [deed]) rows.roles := by
  cases heffect with
  | roleMade role hroom hid hfree => exact h.push hroom hid
  | created | updated | deleted | deletedNobody | granted | grantedNew | assigned =>
    exact h.apart (by simp)

/-! ## The rows of permissions and their links -/

/-- The links between roles and permissions are the codes that were granted. -/
structure CodesGranted (deeds : List Deed) (permissions : Numbered String)
    (pairs : List (Nat × Nat)) : Prop where
  within : permissions.Within
  linked (k p : Nat) (h : (k, p) ∈ pairs) :
    (∃ role : RoleId, role.value.toNat = k) ∧ p ≤ permissions.last
  granted (role : RoleId) (code : String) :
    (∃ p, (role.value.toNat, p) ∈ pairs ∧ permissions.rows[p]? = some code) ↔
      .granted role code ∈ deeds

theorem codesGranted_empty : CodesGranted [] .empty [] where
  within := Numbered.within_empty
  linked k p h := by simp at h
  granted role code := by simp

namespace CodesGranted

variable {permissions : Numbered String} {pairs : List (Nat × Nat)}

theorem apart (h : CodesGranted deeds permissions pairs)
    (hdeed : ∀ role code, deed ≠ .granted role code) :
    CodesGranted (deeds ++ [deed]) permissions pairs where
  within := h.within
  linked := h.linked
  granted role code := by
    rw [h.granted, List.mem_append, List.mem_singleton, or_iff_left (hdeed role code).symm]

theorem link (h : CodesGranted deeds permissions pairs) {role : RoleId} {code : String} {p : Nat}
    (hcode : permissions.rows[p]? = some code) :
    CodesGranted (deeds ++ [.granted role code]) permissions
      (Database.link pairs (role.value.toNat, p)) where
  within := h.within
  linked k q hpair := by
    obtain hpair | hpair := mem_link.mp hpair
    · exact h.linked k q hpair
    · cases hpair
      exact ⟨⟨role, rfl⟩, (h.within.number p code hcode).2⟩
  granted other given := by
    rw [List.mem_append, List.mem_singleton, ← h.granted, Deed.granted.injEq]
    simp only [mem_link, Prod.mk.injEq, RoleId.toNat_inj]
    constructor
    · rintro ⟨q, hpair | ⟨rfl, rfl⟩, hgiven⟩
      · exact .inl ⟨q, hpair, hgiven⟩
      · rw [hcode] at hgiven
        exact .inr ⟨rfl, (Option.some.inj hgiven).symm⟩
    · rintro (⟨q, hpair, hgiven⟩ | ⟨rfl, rfl⟩)
      · exact ⟨q, .inl hpair, hgiven⟩
      · exact ⟨p, .inr ⟨rfl, rfl⟩, hcode⟩

/-- A code that is new changes nothing until it is linked to a role. -/
theorem push (h : CodesGranted deeds permissions pairs) {code : String}
    (hroom : permissions.last + 1 < Numbered.limit) :
    CodesGranted deeds (permissions.push code) pairs where
  within := h.within.push hroom
  linked k p hpair := ⟨(h.linked k p hpair).1, Nat.le_succ_of_le (h.linked k p hpair).2⟩
  granted role given := by
    rw [← h.granted]
    refine exists_congr fun p => and_congr_right fun hpair => ?_
    have hbound := (h.linked _ p hpair).2
    rw [Numbered.getElem?_push, if_neg (by omega)]

end CodesGranted

theorem codesGranted_effect {r rows : Rows}
    (h : CodesGranted deeds r.permissions r.rolePermissions) (heffect : Effect r deed rows) :
    CodesGranted (deeds ++ [deed]) rows.permissions rows.rolePermissions := by
  cases heffect with
  | granted role code p hcode hrole => exact h.link hcode
  | grantedNew role code hroom hfree hrole =>
    exact (h.push hroom).link (by rw [Numbered.getElem?_push, if_pos rfl])
  | created | updated | deleted | deletedNobody | roleMade | assigned =>
    exact h.apart (by simp)

/-! ## The links between users and roles -/

/-- The links of a user who is there are the roles that were assigned; nobody else has any. -/
structure RolesAssigned (deeds : List Deed) (users : Numbered User) (pairs : List (Nat × Nat)) :
    Prop where
  linked (n k : Nat) (h : (n, k) ∈ pairs) : (users.rows[n]?).isSome
  given (id : UserId) (role : RoleId) (h : .assigned id role ∈ deeds) :
    id.value.toNat ≤ users.last
  assigned (id : UserId) (role : RoleId) (h : (users.rows[id.value.toNat]?).isSome) :
    (id.value.toNat, role.value.toNat) ∈ pairs ↔ .assigned id role ∈ deeds

theorem rolesAssigned_empty : RolesAssigned [] .empty [] where
  linked n k h := by simp at h
  given id role h := by simp at h
  assigned id role h := by simp

namespace RolesAssigned

variable {users : Numbered User} {pairs : List (Nat × Nat)}

/-- A deed after which the same users are there, with the same links. -/
theorem apart (h : RolesAssigned deeds users pairs) (hdeed : ∀ id role, deed ≠ .assigned id role)
    {rows : Std.ExtTreeMap Nat User}
    (hrows : ∀ n : Nat, (rows[n]?).isSome = (users.rows[n]?).isSome) :
    RolesAssigned (deeds ++ [deed]) ⟨rows, users.last⟩ pairs where
  linked n k hpair := by
    rw [hrows]
    exact h.linked n k hpair
  given id role hassigned := by
    rw [List.mem_append, List.mem_singleton, or_iff_left (hdeed id role).symm] at hassigned
    exact h.given id role hassigned
  assigned id role huser := by
    rw [hrows] at huser
    rw [h.assigned id role huser, List.mem_append, List.mem_singleton,
      or_iff_left (hdeed id role).symm]

theorem created (h : RolesAssigned deeds users pairs) (hwithin : users.Within) (user : User) :
    RolesAssigned (deeds ++ [.created user]) (users.push user) pairs where
  linked n k hpair := by
    rw [Numbered.getElem?_push]
    split
    · rfl
    · exact h.linked n k hpair
  given id role hassigned := by
    rw [List.mem_append, List.mem_singleton, or_iff_left (by simp)] at hassigned
    exact Nat.le_succ_of_le (h.given id role hassigned)
  assigned id role huser := by
    rw [List.mem_append, List.mem_singleton, or_iff_left (by simp)]
    rw [Numbered.getElem?_push] at huser
    split at huser
    · rename_i hn
      -- The new user has no links yet, and no role was assigned to the new id.
      have hnobody : users.rows[id.value.toNat]? = none := hwithin.getElem?_of_lt (by omega)
      constructor
      · intro hpair
        have hlinked := h.linked _ _ hpair
        rw [hnobody] at hlinked
        contradiction
      · intro hassigned
        have hbound := h.given id role hassigned
        omega
    · exact h.assigned id role huser

theorem deleted (h : RolesAssigned deeds users pairs) (id : UserId) :
    RolesAssigned (deeds ++ [.deleted id]) (users.remove id.value.toNat)
      (pairs.filter (·.1 ≠ id.value.toNat)) where
  linked n k hpair := by
    obtain ⟨hpair, hn⟩ := List.mem_filter.mp hpair
    have hne : id.value.toNat ≠ n := (of_decide_eq_true hn).symm
    rw [Numbered.remove, Std.ExtTreeMap.getElem?_erase]
    simpa [hne] using h.linked n k hpair
  given other role hassigned := by
    rw [List.mem_append, List.mem_singleton, or_iff_left (by simp)] at hassigned
    exact h.given other role hassigned
  assigned other role huser := by
    rw [Numbered.remove, Std.ExtTreeMap.getElem?_erase] at huser
    split at huser
    · contradiction
    · rename_i hn
      have hne : other.value.toNat ≠ id.value.toNat := by
        intro hsame
        rw [hsame] at hn
        exact hn Std.ReflCmp.compare_self
      rw [List.mem_append, List.mem_singleton, or_iff_left (by simp), ← h.assigned other role huser,
        List.mem_filter, and_iff_left (decide_eq_true hne)]

theorem link (h : RolesAssigned deeds users pairs) (hwithin : users.Within) {id : UserId}
    {role : RoleId} (huser : (users.rows[id.value.toNat]?).isSome) :
    RolesAssigned (deeds ++ [.assigned id role]) users
      (Database.link pairs (id.value.toNat, role.value.toNat)) where
  linked n k hpair := by
    obtain hpair | hpair := mem_link.mp hpair
    · exact h.linked n k hpair
    · cases hpair
      exact huser
  given other given hassigned := by
    rw [List.mem_append, List.mem_singleton, Deed.assigned.injEq] at hassigned
    obtain hassigned | ⟨rfl, rfl⟩ := hassigned
    · exact h.given other given hassigned
    · obtain ⟨user, hrow⟩ := Option.isSome_iff_exists.mp huser
      exact (hwithin.number _ user hrow).2
  assigned other given hother := by
    rw [mem_link, h.assigned other given hother, List.mem_append, List.mem_singleton,
      Deed.assigned.injEq, Prod.mk.injEq, UserId.toNat_inj, RoleId.toNat_inj]

end RolesAssigned

theorem rolesAssigned_effect {r rows : Rows} (hwithin : r.users.Within)
    (h : RolesAssigned deeds r.users r.userRoles) (heffect : Effect r deed rows) :
    RolesAssigned (deeds ++ [deed]) rows.users rows.userRoles := by
  cases heffect with
  | created user hroom hid hfree => exact h.created hwithin user
  | updated id hash second user huser =>
    refine h.apart (by simp) fun n => ?_
    rw [Std.ExtTreeMap.getElem?_insert]
    split
    · rename_i hn
      cases Std.LawfulEqCmp.eq_of_compare hn
      rw [huser]
      rfl
    · rfl
  | deleted id hnumber => exact h.deleted id
  | assigned id role hboth =>
    refine h.link hwithin ?_
    obtain hpair | ⟨huser, -⟩ := hboth
    · exact h.linked _ _ hpair
    · exact huser
  | deletedNobody | roleMade | granted | grantedNew =>
    exact h.apart (by simp) fun _ => rfl

/-! ## The access of a user -/

/-- All tables agree with the history that has led to them. -/
structure Recorded (deeds : List Deed) (r : Rows) : Prop where
  enrolled : Enrolled deeds r.users
  rolesMade : RolesMade deeds r.roles
  codesGranted : CodesGranted deeds r.permissions r.rolePermissions
  rolesAssigned : RolesAssigned deeds r.users r.userRoles

theorem recorded_after (second : Int) (calls : List Call) :
    let h := (History.start second).after calls
    Recorded h.deeds h.database.rows := by
  refine History.after_induction (P := fun h => Recorded h.deeds h.database.rows) ?_
    (fun h deed rows hrows heffect => ?_) calls
  · rw [History.start, Layout.migrate_empty]
    exact ⟨enrolled_empty, rolesMade_empty, codesGranted_empty, rolesAssigned_empty⟩
  · exact ⟨enrolled_effect hrows.enrolled heffect, rolesMade_effect hrows.rolesMade heffect,
      codesGranted_effect hrows.codesGranted heffect,
      rolesAssigned_effect hrows.enrolled.within hrows.rolesAssigned heffect⟩

/-- The parts from which the access of the user with a number is put together. -/
def partsOf (r : Rows) (n : Nat) : List UserAccess.Addition :=
  (Accounts.rolesOf r n).map (fun (_, role) => .role role) ++
    (Accounts.grantsOf r n).map fun (role, code) => .permission ⟨.ofNat role⟩ code

section

variable {r : Rows} {n : Nat}

theorem role_mem_partsOf {role : Role} :
    .role role ∈ partsOf r n ↔
      ∃ k : Nat, r.roles.rows[k]? = some role ∧ (n, k) ∈ r.userRoles := by
  simp [partsOf, Accounts.rolesOf, Std.ExtTreeMap.mem_toList_iff_getElem?_eq_some]

theorem permission_mem_partsOf {role : RoleId} {code : String} :
    .permission role code ∈ partsOf r n ↔
      ∃ k p : Nat, (k, p) ∈ r.rolePermissions ∧ (n, k) ∈ r.userRoles ∧
        r.permissions.rows[p]? = some code ∧ (⟨.ofNat k⟩ : RoleId) = role := by
  constructor
  · intro h
    obtain ⟨⟨k, given⟩, hgrant, heq⟩ : ∃ grant ∈ Accounts.grantsOf r n,
        UserAccess.Addition.permission ⟨.ofNat grant.1⟩ grant.2 = .permission role code := by
      simpa [partsOf] using h
    obtain ⟨rfl, rfl⟩ := UserAccess.Addition.permission.inj heq
    obtain ⟨⟨other, p⟩, hpair, hfound⟩ := List.mem_filterMap.mp hgrant
    obtain ⟨hlinked, hfound⟩ := Option.ite_none_right_eq_some.mp hfound
    obtain ⟨_, hrow, heq⟩ := Option.map_eq_some_iff.mp hfound
    cases heq
    exact ⟨k, p, hpair, List.contains_iff_mem.mp hlinked, hrow, rfl⟩
  · rintro ⟨k, p, hpair, hlinked, hrow, rfl⟩
    have hgrant : (k, code) ∈ Accounts.grantsOf r n := by
      refine List.mem_filterMap.mpr ⟨(k, p), hpair, ?_⟩
      refine (if_pos (List.contains_iff_mem.mpr hlinked)).trans ?_
      rw [hrow]
      rfl
    exact List.mem_append_right _ (List.mem_map.mpr ⟨_, hgrant, rfl⟩)

theorem grants_partsOf (h : Recorded deeds r) {id : UserId} (huser : (standing deeds id).isSome)
    (code : String) :
    ((partsOf r id.value.toNat).foldl UserAccess.add (.empty id)).grants code =
      entitled deeds id code := by
  rw [Bool.eq_iff_iff, UserAccess.grants_foldl_iff, entitled_eq_true_iff]
  have hpresent : (r.users.rows[id.value.toNat]?).isSome := by
    rw [h.enrolled.current]
    exact huser
  -- A row of a role stands under the role's own id, which is what the links refer to.
  have hrole (role : Role) : .role role ∈ partsOf r id.value.toNat ↔
      .roleMade role ∈ deeds ∧ .assigned id role.id ∈ deeds := by
    rw [role_mem_partsOf, ← h.rolesMade.made, ← h.rolesAssigned.assigned id role.id hpresent]
    constructor
    · rintro ⟨k, hrow, hpair⟩
      rw [h.rolesMade.numbered k role hrow]
      exact ⟨hrow, hpair⟩
    · rintro ⟨hrow, hpair⟩
      exact ⟨_, hrow, hpair⟩
  have hcode (role : RoleId) : .permission role code ∈ partsOf r id.value.toNat ↔
      .assigned id role ∈ deeds ∧ .granted role code ∈ deeds := by
    rw [permission_mem_partsOf, ← h.codesGranted.granted,
      ← h.rolesAssigned.assigned id role hpresent]
    constructor
    · rintro ⟨k, p, hpair, hlinked, hrow, rfl⟩
      obtain ⟨⟨role, rfl⟩, -⟩ := h.codesGranted.linked k p hpair
      rw [UInt64.ofNat_toNat]
      exact ⟨hlinked, p, hpair, hrow⟩
    · rintro ⟨hlinked, p, hpair, hrow⟩
      exact ⟨_, p, hpair, hlinked, hrow, by rw [UInt64.ofNat_toNat]⟩
  simp only [hrole, hcode]
  constructor
  · rintro ⟨role, ⟨hmade, hassigned⟩, hfull | ⟨-, hgranted⟩⟩
    · exact ⟨role, hmade, hassigned, .inl hfull⟩
    · exact ⟨role, hmade, hassigned, .inr hgranted⟩
  · rintro ⟨role, hmade, hassigned, hfull | hgranted⟩
    · exact ⟨role, ⟨hmade, hassigned⟩, .inl hfull⟩
    · exact ⟨role, ⟨hmade, hassigned⟩, .inr ⟨hassigned, hgranted⟩⟩

end

/-- The access that a database finds is put together from the rows of the user. -/
theorem access_eq {db : Database} (hlaid : db.IsLaid) (h : Enrolled deeds db.rows.users)
    (id : UserId) :
    db.directory.access id = .ok ((standing deeds id).map fun _ =>
      (partsOf db.rows id.value.toNat).foldl UserAccess.add (.empty id)) := by
  unfold directory Accounts.findAccess Accounts.rowOf?
  by_cases hnumber : id.value.toNat < Numbered.limit
  · simp only [if_pos hnumber]
    have husers : db.schema.resolve ["users"] [] = .ok () := hlaid.resolve (by decide) (by decide)
    have hroles : Accounts.resolveRoles db.schema = .ok () := hlaid.resolve (by decide) (by decide)
    have hgrants : Accounts.resolveGrants db.schema = .ok () :=
      hlaid.resolve (by decide) (by decide)
    refine answer_of_run db ?_
    refine (run_bind (run_mapError (run_query hlaid.isOpen husers))).trans ?_
    rw [Std.ExtTreeMap.contains_eq_isSome_getElem?, h.current]
    cases hstanding : standing deeds id with
    | none => rfl
    | some user =>
      refine (run_bind (run_mapError (run_query hlaid.isOpen hroles))).trans ?_
      refine (run_bind (run_mapError (run_query hlaid.isOpen hgrants))).trans ?_
      rw [partsOf, List.foldl_append, List.foldl_map, List.foldl_map]
      rfl
  · simp only [if_neg hnumber]
    rw [h.standing_of_limit_le (Nat.le_of_not_lt hnumber)]
    rfl

end Gatehouse.Database
