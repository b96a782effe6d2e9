import Gatehouse.Proofs.Database.Apart

/-! The objects of the built-in migrations. In a schema that holds no others a name stands for one
object alone, so that it is enough to know which of them are there. -/
namespace Gatehouse.Database

/-! ## Built-in objects -/

namespace Layout

/-- The table of records. -/
def records : Object := ⟨Migration.tableName, .full⟩

def table (name : String) : Object := ⟨name, .full⟩

/-- The table of the numbers given out so far. -/
def numbers : Object := ⟨Schema.sequence, .internal⟩

def builtIn : List Object := records :: allObjects

/-- The tables and indexes that the built-in migrations make. -/
def parts : List Object := allObjects.filter (· ≠ numbers)

/-- The version of the migration that makes a part. -/
def home (o : Object) : Int := if o.name = "users" then 1 else if o.isTable then 2 else 3

theorem eq_of_fold {o other : Object} (ho : o ∈ builtIn) (hother : other ∈ builtIn)
    (h : Schema.fold o.name = Schema.fold other.name) : o = other := by
  have hdistinct : ∀ o ∈ builtIn, ∀ other ∈ builtIn,
      Schema.fold o.name = Schema.fold other.name → o = other := by decide +kernel
  exact hdistinct o ho other hother h

theorem table_mem_parts {name : String} (h : name ∈ tables) : table name ∈ parts := by
  have hall : ∀ name ∈ tables, table name ∈ parts := by decide +kernel
  exact hall name h

theorem table_ne_numbers (name : String) : table name ≠ numbers :=
  fun h => nomatch congrArg Object.shape h

theorem mem_builtIn_iff {o : Object} : o ∈ builtIn ↔ o = records ∨ o = numbers ∨ o ∈ parts := by
  have hnumbers : numbers ∈ allObjects := by decide +kernel
  rw [builtIn, List.mem_cons, parts, List.mem_filter, decide_eq_true_eq]
  by_cases h : o = numbers
  · simp [h, hnumbers]
  · simp [h]

theorem numbers_mem : numbers ∈ builtIn := mem_builtIn_iff.mpr (.inr (.inl rfl))

theorem mem_builtIn_of_parts {o : Object} (h : o ∈ parts) : o ∈ builtIn :=
  mem_builtIn_iff.mpr (.inr (.inr h))

theorem ne_numbers_of_mem_parts {o : Object} (h : o ∈ parts) : o ≠ numbers :=
  of_decide_eq_true (List.mem_filter.mp h).2

end Layout

open Layout (records numbers builtIn parts table home)

namespace Schema

variable {s changed : Schema} {o : Object}

/-- A schema of built-in objects, of which the table of records is the first. -/
structure IsBuiltIn (s : Schema) : Prop where
  headed : s.objects.head? = some records
  nodup : s.objects.Nodup
  subset : s.objects ⊆ builtIn

namespace IsBuiltIn

theorem find?_eq (h : s.IsBuiltIn) (ho : o ∈ builtIn) :
    s.find? o.name = if o ∈ s.objects then some o else none := by
  split
  · rename_i hmem
    cases hfound : s.find? o.name with
    | none => exact absurd (List.find?_eq_none.mp hfound o hmem) (by simp)
    | some other =>
      have hname := List.find?_some hfound
      rw [Layout.eq_of_fold (h.subset (List.mem_of_find?_eq_some hfound)) ho
        (of_decide_eq_true hname)]
  · rename_i hmem
    apply List.find?_eq_none.mpr
    intro other hother hname
    exact hmem (Layout.eq_of_fold (h.subset hother) ho (of_decide_eq_true hname) ▸ hother)

theorem filter (h : s.IsBuiltIn) {p : Object → Bool} (hp : p records = true) :
    IsBuiltIn ⟨s.objects.filter p⟩ where
  headed := by
    obtain ⟨others, hothers⟩ := List.head?_eq_some_iff.mp h.headed
    rw [hothers, List.filter_cons_of_pos hp]
    rfl
  nodup := h.nodup.filter p
  subset := fun _ ho => h.subset (List.mem_filter.mp ho).1

theorem insert_eq (h : s.IsBuiltIn) (o : Object) :
    s.insert o.name o.shape = ⟨s.objects ++ [o]⟩ ∨
      o.shape = .full ∧ numbers ∉ s.objects ∧
        s.insert o.name o.shape = ⟨s.objects ++ [o, numbers]⟩ := by
  have hnumbers : s.find? sequence = if numbers ∈ s.objects then some numbers else none :=
    h.find?_eq Layout.numbers_mem
  unfold Schema.insert
  dsimp only
  split
  · rename_i hmade
    refine .inr ⟨hmade.1, fun hmem => ?_, rfl⟩
    rw [hnumbers, if_pos hmem] at hmade
    simp at hmade
  · exact .inl rfl

theorem append (h : s.IsBuiltIn) {others : List Object} (hnodup : others.Nodup)
    (hnew : ∀ o ∈ others, o ∈ builtIn ∧ o ∉ s.objects) : IsBuiltIn ⟨s.objects ++ others⟩ where
  headed := by
    rw [List.head?_append, h.headed]
    rfl
  nodup := by
    refine List.nodup_append.mpr ⟨h.nodup, hnodup, fun o ho other hother hsame => ?_⟩
    exact (hnew other hother).2 (hsame ▸ ho)
  subset := List.append_subset.mpr ⟨h.subset, fun o ho => (hnew o ho).1⟩

theorem insert (h : s.IsBuiltIn) (ho : o ∈ builtIn) (hnew : o ∉ s.objects) :
    (s.insert o.name o.shape).IsBuiltIn := by
  rcases h.insert_eq o with hinsert | ⟨hfull, hfirst, hinsert⟩
  · rw [hinsert]
    exact h.append (by simp) (List.forall_mem_singleton.mpr ⟨ho, hnew⟩)
  · have hne : o ≠ numbers := by
      rintro rfl
      contradiction
    rw [hinsert]
    apply h.append (by simp [hne])
    exact List.forall_mem_cons.mpr
      ⟨⟨ho, hnew⟩, List.forall_mem_singleton.mpr ⟨Layout.numbers_mem, hfirst⟩⟩

theorem mem_insert (h : s.IsBuiltIn) {other : Object} (hother : other ≠ numbers) :
    other ∈ (s.insert o.name o.shape).objects ↔ other ∈ s.objects ∨ other = o := by
  rcases h.insert_eq o with hinsert | ⟨-, -, hinsert⟩
  · simp [hinsert]
  · simp [hinsert, hother]

/-- Once it has been made, an object is there, and nothing else has come or gone. -/
theorem of_makes (h : s.IsBuiltIn) (ho : o ∈ builtIn)
    (hmakes : s.Makes o.name o.shape changed) :
    changed.IsBuiltIn ∧ ∀ other ≠ numbers,
      (other ∈ changed.objects ↔ other ∈ s.objects ∨ other = o) := by
  rw [Makes, h.find?_eq ho] at hmakes
  by_cases hmem : o ∈ s.objects
  · rw [if_pos hmem] at hmakes
    rcases hmakes with ⟨-, rfl⟩ | ⟨hnone, -⟩
    · refine ⟨h, fun other _ => ⟨.inl, ?_⟩⟩
      rintro (hother | rfl)
      · exact hother
      · exact hmem
    · contradiction
  · rw [if_neg hmem] at hmakes
    rcases hmakes with ⟨hsome, -⟩ | ⟨-, rfl⟩
    · contradiction
    · exact ⟨h.insert ho hmem, fun other hother => h.mem_insert hother⟩

/-! ## Drops -/

theorem dropIndex (h : s.IsBuiltIn) (index : String) : (s.dropIndex index).IsBuiltIn :=
  h.filter rfl

theorem mem_dropIndex (h : s.IsBuiltIn) (ho : o ∈ builtIn) (hindex : o.isTable = false)
    {other : Object} : other ∈ (s.dropIndex o.name).objects ↔ other ∈ s.objects ∧ other ≠ o := by
  refine List.mem_filter.trans (and_congr_right fun hmem => ?_)
  rw [Bool.or_eq_true, decide_eq_true_eq]
  constructor
  · rintro (htable | hname) rfl
    · rw [hindex] at htable
      contradiction
    · exact hname rfl
  · intro hne
    exact .inr fun hname => hne (Layout.eq_of_fold (h.subset hmem) ho hname)

theorem table?_eq (h : s.IsBuiltIn) {name : String} (hname : name ∈ Layout.tables) :
    s.table? name = if table name ∈ s.objects then some (table name) else none := by
  have hfound := h.find?_eq (Layout.mem_builtIn_of_parts (Layout.table_mem_parts hname))
  change s.find? name = _ at hfound
  rw [Schema.table?, hfound]
  split <;> rfl

theorem findToDrop_eq (h : s.IsBuiltIn) {name : String} (hname : name ∈ Layout.tables) :
    s.findToDrop (.ifAny name) = .ok (if table name ∈ s.objects then some name else none) := by
  have hcatalog : ∀ name ∈ Layout.tables, catalog.lookup (fold name) = none := by decide +kernel
  rw [s.findToDrop_ifAny (hcatalog name hname), h.table?_eq hname]
  split_ifs <;> rfl

theorem dropTable (h : s.IsBuiltIn) {name : String} (hname : name ∈ Layout.tables) :
    (s.dropTable name).IsBuiltIn := by
  have hkept : ∀ name ∈ Layout.tables, (!(records.isTable && fold records.name = fold name) &&
      records.shape ≠ .index (fold name)) = true := by decide +kernel
  exact h.filter (hkept name hname)

theorem mem_dropTable (h : s.IsBuiltIn) {name : String} (hname : name ∈ Layout.tables) :
    o ∈ (s.dropTable name).objects ↔ o ∈ s.objects ∧ o ≠ table name ∧ o.shape ≠ .index name := by
  have htable := Layout.mem_builtIn_of_parts (Layout.table_mem_parts hname)
  refine List.mem_filter.trans (and_congr_right fun hmem => ?_)
  have hsame : (o.isTable && fold o.name = fold name) = true ↔ o = table name := by
    rw [Bool.and_eq_true, decide_eq_true_eq]
    constructor
    · rintro ⟨-, hfold⟩
      exact Layout.eq_of_fold (h.subset hmem) htable hfold
    · rintro rfl
      exact ⟨rfl, rfl⟩
  rw [Bool.and_eq_true, Bool.not_eq_true', ← Bool.not_eq_true, hsame, decide_eq_true_eq,
    Layout.fold_of_mem hname]

end IsBuiltIn

end Schema

end Gatehouse.Database
