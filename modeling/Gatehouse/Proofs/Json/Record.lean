import Gatehouse.Json.Record
import Gatehouse.Proofs.Json.Reading

/-! Records that are written and read back: the reader finds each field by its name, whatever other
fields stand beside it. -/
namespace Gatehouse.Json

/-- Items that are written one by one are read one by one. -/
theorem mapM_map_eq_some {α β γ : Type} {items : List α} {write : α → β} {read? : β → Option γ}
    {value : α → γ} (h : ∀ item ∈ items, read? (write item) = some (value item)) :
    (items.map write).mapM read? = some (items.map value) := by
  induction items with
  | nil => rfl
  | cons item items ih =>
    rw [List.map_cons, List.mapM_cons, h item (by simp), ih fun item hitem => h item (by simp [hitem])]
    rfl

theorem rereadMembers_eq_map (members : List Member) :
    rereadMembers members = members.map fun (key, value) =>
      (written (key.text?.getD ""), value.reread) := by
  induction members with
  | nil => rfl
  | cons member members ih => rw [rereadMembers, ih, List.map_cons]

theorem rereadItems_eq_map (items : List Json) : rereadItems items = items.map reread := by
  induction items with
  | nil => rfl
  | cons item items ih => rw [rereadItems, ih, List.map_cons]

theorem membersAreIntegral_iff {members : List Member} :
    MembersAreIntegral members ↔ ∀ member ∈ members, member.2.IsIntegral := by
  induction members with
  | nil => simp [MembersAreIntegral]
  | cons member members ih => simp [MembersAreIntegral, ih]

theorem areIntegral_iff {items : List Json} :
    AreIntegral items ↔ ∀ item ∈ items, item.IsIntegral := by
  induction items with
  | nil => simp [AreIntegral]
  | cons item items ih => simp [AreIntegral, ih]

theorem isIntegral_record {fields : List (String × Json)} :
    (record fields).IsIntegral ↔ ∀ field ∈ fields, field.2.IsIntegral := by
  change MembersAreIntegral _ ↔ _
  rw [membersAreIntegral_iff, List.forall_mem_map]

theorem reread_record (fields : List (String × Json)) :
    (record fields).reread =
      .object (fields.map fun (name, value) => (written name, value.reread)) := by
  simp [record, reread, rereadMembers_eq_map, Spelling.text?]

/-! ## Fields -/

theorem filter_written_of_notMem {fields : List (String × Json)} {name : String}
    (h : name ∉ fields.map Prod.fst) :
    (fields.map fun (name, value) => (written name, value.reread)).filter
      (fun member => member.1.text? == some name) = [] := by
  rw [List.filter_eq_nil_iff, List.forall_mem_map]
  intro field hfield hname
  have heq : field.1 = name := by simpa using hname
  exact h (heq ▸ List.mem_map_of_mem hfield)

/-- A field is found by its name. -/
theorem field?_written {fields : List (String × Json)} (h : (fields.map Prod.fst).Nodup)
    (name : String) :
    field? (fields.map fun (name, value) => (written name, value.reread)) name =
      some ((fields.lookup name).map reread) := by
  induction fields with
  | nil => rfl
  | cons field fields ih =>
    obtain ⟨first, value⟩ := field
    rw [List.map_cons, List.nodup_cons] at h
    unfold field? at ih ⊢
    by_cases hname : first = name
    · subst hname
      simp [filter_written_of_notMem h.1]
    · have hlookup : (name == first) = false := by simpa using Ne.symm hname
      simpa [hname, List.lookup_cons, hlookup] using ih h.2

theorem fields?_reread_record (fields : List (String × Json)) (h : (fields.map Prod.fst).Nodup)
    (names : List String) :
    fields? names (record fields).reread =
      some (names.map fun name => (fields.lookup name).map reread) := by
  have hkeys : (fields.map fun (name, value) => (written name, value.reread)).all
      (fun member => member.1.text?.isSome) = true := by
    simp
  rw [reread_record, fields?, if_pos hkeys]
  induction names with
  | nil => rfl
  | cons name names ih => rw [List.mapM_cons, ih, field?_written h]; rfl

theorem lookup_of_mem {fields : List (String × Json)} (h : (fields.map Prod.fst).Nodup)
    {field : String × Json} (hfield : field ∈ fields) : fields.lookup field.1 = some field.2 := by
  induction fields with
  | nil => contradiction
  | cons first fields ih =>
    rw [List.map_cons, List.nodup_cons] at h
    rcases List.mem_cons.mp hfield with rfl | hfield
    · exact List.lookup_cons_self
    · have hne : (field.1 == first.1) = false := by
        rw [beq_eq_false_iff_ne]
        intro heq
        exact h.1 (heq ▸ List.mem_map_of_mem hfield)
      rw [List.lookup_cons, hne]
      exact ih h.2 hfield

/-- The values of all fields of a record, as they are read. -/
theorem allFields?_reread_record (fields : List (String × Json))
    (h : (fields.map Prod.fst).Nodup) :
    allFields? (fields.map Prod.fst) (record fields).reread =
      some (fields.map fun field => field.2.reread) := by
  have hvalues : (fields.map Prod.fst).map (fun name => (fields.lookup name).map reread) =
      fields.map fun field => some field.2.reread := by
    rw [List.map_map]
    apply List.map_congr_left
    intro field hfield
    simp [lookup_of_mem h hfield]
  rw [allFields?, fields?_reread_record fields h, hvalues, Option.bind_eq_bind, Option.bind_some]
  exact mapM_map_eq_some fun _ _ => rfl

end Gatehouse.Json
