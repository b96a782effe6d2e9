import Gatehouse.User.Access

/-! What a user may do, seen from the roles and permissions that were put together. Only what was
added counts, not in which order or how often. -/
namespace Gatehouse.UserAccess

/-- A part of a user's access. -/
inductive Addition where
  | role (role : Role)
  | permission (role : RoleId) (code : String)
deriving DecidableEq

def add (a : UserAccess) : Addition → UserAccess
  | .role role => a.withRole role
  | .permission role code => a.withPermission role code

/-- Whether a code is among those of a role id, be it that of a role of the user or not. -/
def holds (a : UserAccess) (role : RoleId) (code : String) : Bool :=
  ((a.permissions[role]?).getD ∅).contains code

variable {a : UserAccess} {role : RoleId} {code : String}

theorem grants_eq_true_iff :
    a.grants code = true ↔
      ∃ r ∈ a.roles, r.fullAccess = true ∨ a.holds r.id code = true := by
  unfold grants hasFullAccess
  simp only [Bool.or_eq_true, List.any_eq_true]
  constructor
  · rintro (⟨r, hr, hfull⟩ | ⟨r, hr, hcode⟩)
    · exact ⟨r, hr, .inl hfull⟩
    · exact ⟨r, hr, .inr hcode⟩
  · rintro ⟨r, hr, hfull | hcode⟩
    · exact .inl ⟨r, hr, hfull⟩
    · exact .inr ⟨r, hr, hcode⟩

theorem holds_withRole (r : Role) : (a.withRole r).holds role code = a.holds role code := by
  unfold holds withRole
  rw [Std.ExtTreeMap.getElem?_alter]
  split
  · rename_i h
    cases Std.LawfulEqOrd.eq_of_compare h
    cases a.permissions[r.id]? <;> rfl
  · rfl

theorem holds_withPermission (other : RoleId) (given : String) :
    (a.withPermission other given).holds role code = true ↔
      other = role ∧ given = code ∨ a.holds role code = true := by
  unfold holds withPermission
  rw [Std.ExtTreeMap.getElem?_alter]
  split
  · rename_i h
    cases Std.LawfulEqOrd.eq_of_compare h
    simp [Std.ExtTreeSet.contains_insert]
  · rename_i h
    have hne : other ≠ role := by
      rintro rfl
      exact h Std.ReflCmp.compare_self
    simp [hne]

theorem mem_roles_foldl {additions : List Addition} {r : Role} :
    r ∈ (additions.foldl add a).roles ↔ .role r ∈ additions ∨ r ∈ a.roles := by
  induction additions generalizing a with
  | nil => simp
  | cons addition additions ih =>
    rw [List.foldl_cons, ih]
    cases addition with
    | role other =>
      simp only [add, withRole, List.mem_append, List.mem_cons, List.not_mem_nil, or_false,
        Addition.role.injEq]
      rw [or_comm (a := r ∈ a.roles), ← or_assoc, or_comm (a := .role r ∈ additions)]
    | permission role code => simp [add, withPermission]

theorem holds_foldl {additions : List Addition} :
    (additions.foldl add a).holds role code = true ↔
      .permission role code ∈ additions ∨ a.holds role code = true := by
  induction additions generalizing a with
  | nil => simp
  | cons addition additions ih =>
    rw [List.foldl_cons, ih]
    cases addition with
    | role r => simp [add, holds_withRole]
    | permission other given =>
      simp only [add, holds_withPermission, List.mem_cons, Addition.permission.injEq,
        eq_comm (a := other), eq_comm (a := given)]
      rw [or_left_comm, or_assoc]

/-- An access that was put together from nothing grants a code if one of its roles grants every
code, or if the code was given to the id of one of its roles. -/
theorem grants_foldl_iff (userId : UserId) (additions : List Addition) :
    (additions.foldl add (.empty userId)).grants code = true ↔
      ∃ r, .role r ∈ additions ∧ (r.fullAccess = true ∨ .permission r.id code ∈ additions) := by
  have hroles : (empty userId).roles = [] := rfl
  have hholds (id : RoleId) : (empty userId).holds id code = false := by
    simp [empty, holds]
  simp only [grants_eq_true_iff, mem_roles_foldl, holds_foldl, hroles, hholds, List.not_mem_nil,
    or_false, Bool.false_eq_true]

/-- Whatever was added otherwise, and how often and in which order, no grant is lost as long as all
that led to it is added. -/
theorem grants_foldl_of_subset {userId : UserId} {additions more : List Addition}
    (h : additions ⊆ more) (hgrants : (additions.foldl add (.empty userId)).grants code = true) :
    (more.foldl add (.empty userId)).grants code = true := by
  rw [grants_foldl_iff] at hgrants ⊢
  obtain ⟨r, hr, hfull | hcode⟩ := hgrants
  · exact ⟨r, h hr, .inl hfull⟩
  · exact ⟨r, h hr, .inr (h hcode)⟩

theorem grants_foldl_perm {userId : UserId} {additions others : List Addition}
    (h : others.Perm additions) :
    (others.foldl add (.empty userId)).grants code =
      (additions.foldl add (.empty userId)).grants code := by
  rw [Bool.eq_iff_iff]
  exact ⟨grants_foldl_of_subset h.subset, grants_foldl_of_subset h.symm.subset⟩

/-- Whether an addition has to do with a role that is added: such a role, or a permission of the id
of one. -/
def Addition.isAttached (additions : List Addition) : Addition → Bool
  | .role _ => true
  | .permission role _ => additions.any fun
    | .role r => decide (r.id = role)
    | .permission .. => false

theorem isAttached_of_mem {additions : List Addition} {r : Role} (h : .role r ∈ additions)
    (code : String) : Addition.isAttached additions (.permission r.id code) = true :=
  List.any_eq_true.mpr ⟨.role r, h, decide_eq_true rfl⟩

theorem grants_foldl_filter (userId : UserId) (additions : List Addition) :
    ((additions.filter (Addition.isAttached additions)).foldl add (.empty userId)).grants code =
      (additions.foldl add (.empty userId)).grants code := by
  rw [Bool.eq_iff_iff]
  constructor
  · exact grants_foldl_of_subset fun addition h => (List.mem_filter.mp h).1
  · simp only [grants_foldl_iff, List.mem_filter]
    rintro ⟨r, hr, hfull | hcode⟩
    · exact ⟨r, ⟨hr, rfl⟩, .inl hfull⟩
    · exact ⟨r, ⟨hr, rfl⟩, .inr ⟨hcode, isAttached_of_mem hr code⟩⟩

/-- A code is granted if a role with full access was added, or if it was given to the id of a role
that was added. So the order of the additions does not matter, more of them lose no grant, and
permissions of ids that no added role has may be left out. -/
theorem grants_of_additions (userId : UserId) (additions : List Addition) (code : String) :
    let granted (additions : List Addition) := (additions.foldl add (.empty userId)).grants code
    (granted additions = true ↔
      (∃ r, .role r ∈ additions ∧ r.fullAccess = true) ∨
        ∃ r, .role r ∈ additions ∧ .permission r.id code ∈ additions) ∧
    (∀ others : List Addition, others.Perm additions → granted others = granted additions) ∧
    (∀ more, additions ⊆ more → granted additions = true → granted more = true) ∧
    granted (additions.filter (Addition.isAttached additions)) = granted additions := by
  refine ⟨?_, fun others => grants_foldl_perm, fun more => grants_foldl_of_subset,
    grants_foldl_filter userId additions⟩
  rw [grants_foldl_iff, ← exists_or]
  simp only [and_or_left]

namespace Sample

/-- Two roles of one id, whose permission came first, and a permission of an id without a role. -/
def additions : List Addition :=
  [.permission ⟨2⟩ "posts.edit", .role ⟨⟨2⟩, "editor", false⟩, .permission ⟨3⟩ "posts.delete",
    .role ⟨⟨2⟩, "author", false⟩]

def owner : Role := ⟨⟨4⟩, "owner", true⟩

theorem editor_grants :
    (additions.reverse.foldl add (.empty ⟨1⟩)).grants "posts.edit" = true ∧
      ((.role owner :: additions).foldl add (.empty ⟨1⟩)).grants "posts.edit" = true ∧
      (additions.foldl add (.empty ⟨1⟩)).grants "posts.delete" = false := by
  obtain ⟨hiff, hperm, hmore, -⟩ := grants_of_additions ⟨1⟩ additions "posts.edit"
  obtain ⟨hiff', -⟩ := grants_of_additions ⟨1⟩ additions "posts.delete"
  have hedit : (additions.foldl add (.empty ⟨1⟩)).grants "posts.edit" = true :=
    hiff.mpr (.inr ⟨⟨⟨2⟩, "author", false⟩, by decide, by decide⟩)
  refine ⟨(hperm _ additions.reverse_perm).trans hedit, ?_, ?_⟩
  · exact hmore _ (List.subset_cons_self _ _) hedit
  · rw [← Bool.not_eq_true, hiff']
    simp [additions]

end Sample

end Gatehouse.UserAccess
