import Gatehouse.Proofs.Database.Layout

/-! Changes that know nothing of the records of migrations: they do the same whatever is recorded,
and leave the table of records where it is. All built-in migrations are such changes. -/
namespace Gatehouse.Database

variable {db after : Database}

def withRecords (db : Database) (records : Std.ExtTreeMap Int Applied) : Database :=
  { db with rows := { db.rows with applied := records } }

/-- An open database that has the table of records. -/
structure HasRecords (db : Database) : Prop where
  isOpen : db.closed = false
  resolves : Migration.resolveTable db.schema = .ok ()

theorem HasRecords.withRecords (h : db.HasRecords) (records : Std.ExtTreeMap Int Applied) :
    (db.withRecords records).HasRecords := ⟨h.isOpen, h.resolves⟩

/-! ## Changes apart from the records -/

namespace Change

/-- A change that neither looks at the records of migrations nor changes them, and leaves their
table where it is. -/
structure Apart {ε : Type} (c : Change ε Unit) : Prop where
  run_withRecords (db : Database) (records : Std.ExtTreeMap Int Applied) :
    StateT.run c (db.withRecords records) =
      (StateT.run c db).map fun result => (result.1, result.2.withRecords records)
  hasRecords {db after : Database} (h : StateT.run c db = .ok ((), after)) (hdb : db.HasRecords) :
    after.HasRecords

variable {ε δ : Type} {c d : Change ε Unit} {records : Std.ExtTreeMap Int Applied}

theorem Apart.run_of_ok (hc : c.Apart) (h : StateT.run c db = .ok ((), after)) :
    StateT.run c (db.withRecords records) = .ok ((), after.withRecords records) := by
  rw [hc.run_withRecords, h]
  rfl

theorem Apart.ok_of_run (hc : c.Apart)
    (h : StateT.run c (db.withRecords records) = .ok ((), after)) :
    ∃ made, StateT.run c db = .ok ((), made) ∧ after = made.withRecords records := by
  rw [hc.run_withRecords] at h
  cases hrun : StateT.run c db with
  | error e =>
    rw [hrun] at h
    contradiction
  | ok result =>
    rw [hrun] at h
    cases h
    exact ⟨result.2, rfl, rfl⟩

theorem Apart.applied_eq (hc : c.Apart) (h : StateT.run c db = .ok ((), after)) :
    after.rows.applied = db.rows.applied := by
  have hsame : StateT.run c (db.withRecords db.rows.applied) = .ok ((), after) := h
  obtain ⟨made, -, hafter⟩ := hc.ok_of_run hsame
  rw [hafter]
  rfl

theorem apart_pure : Apart (pure () : Change ε Unit) where
  run_withRecords _ _ := rfl
  hasRecords h hdb := by
    cases h
    exact hdb

theorem apart_throw (e : ε) : Apart (throw e : Change ε Unit) where
  run_withRecords _ _ := rfl
  hasRecords h := by cases h

theorem Apart.bind (hc : c.Apart) (hd : d.Apart) : Apart (c >>= fun _ => d) where
  run_withRecords db records := by
    rw [StateT.run_bind, StateT.run_bind, hc.run_withRecords]
    cases StateT.run c db with
    | error e => rfl
    | ok result => exact hd.run_withRecords result.2 records
  hasRecords h hdb := by
    obtain ⟨_, middle, hfirst, hrest⟩ := ok_of_run_bind h
    exact hd.hasRecords hrest (hc.hasRecords hfirst hdb)

theorem apart_forM {ι : Type} {items : List ι} {f : ι → Change ε Unit}
    (h : ∀ item ∈ items, (f item).Apart) : Apart (items.forM f) := by
  induction items with
  | nil => exact apart_pure
  | cons item rest ih =>
    obtain ⟨hitem, hrest⟩ := List.forall_mem_cons.mp h
    exact hitem.bind (ih hrest)

theorem Apart.mapError (hc : c.Apart) (f : ε → δ) : Apart (c.mapError f) where
  run_withRecords db records := by
    change Except.mapError f _ = (Except.mapError f _).map _
    rw [hc.run_withRecords]
    cases StateT.run c db <;> rfl
  hasRecords h hdb := hc.hasRecords (run_eq_ok h) hdb

end Change

/-! ## Statements that leave the table of records -/

namespace Schema

variable {s : Schema} {name : String}

theorem isFull_eq_true_iff :
    s.isFull name = true ↔ ∃ o, s.find? name = some o ∧ o.shape = .full := by
  simp [isFull, Option.any_eq_true]

/-- A table with all its columns can be read. -/
theorem resolve_of_isFull (h : s.isFull name = true) (column : String) :
    s.resolve [name] [(name, column)] = .ok () := by
  obtain ⟨o, hfound, hshape⟩ := isFull_eq_true_iff.mp h
  have htable : s.requireTable name = .ok () := by
    simp [requireTable, table?, hfound, Object.isTable, hshape]
  have hcolumn : s.requireColumn name column = .ok () := if_pos h
  unfold resolve
  simp [htable, hcolumn]
  rfl

theorem isFull_insert (h : s.isFull name = true) (other : String) (shape : Shape) :
    (s.insert other shape).isFull name = true := by
  obtain ⟨o, hfound, hshape⟩ := isFull_eq_true_iff.mp h
  refine isFull_eq_true_iff.mpr ⟨o, ?_, hshape⟩
  rw [find?, insert, List.find?_append]
  exact congrArg (Option.or · _) hfound

theorem isFull_filter {p : Object → Bool} (h : s.isFull name = true)
    (hp : ∀ o, fold o.name = fold name → o.isTable = true → p o = true) :
    isFull ⟨s.objects.filter p⟩ name = true := by
  obtain ⟨o, hfound, hshape⟩ := isFull_eq_true_iff.mp h
  refine isFull_eq_true_iff.mpr ⟨o, ?_, hshape⟩
  obtain ⟨hname, before, rest, hobjects, hbefore⟩ := List.find?_eq_some_iff_append.mp hfound
  rw [find?, List.find?_filter, hobjects]
  apply List.find?_eq_some_iff_append.mpr
  refine ⟨?_, before, rest, rfl, fun other hother => ?_⟩
  · have hkept := hp o (of_decide_eq_true hname) (by simp [Object.isTable, hshape])
    simp [hkept, of_decide_eq_true hname]
  · have hother := hbefore other hother
    simp only [Bool.not_eq_true', decide_eq_false_iff_not] at hother
    simp [hother]

variable {changed : Schema}

/-- How a change that makes an object ends: it was there, or it is there now. -/
def Makes (s : Schema) (name : String) (shape : Shape) (changed : Schema) : Prop :=
  (s.find? name).isSome ∧ changed = s ∨ s.find? name = none ∧ changed = s.insert name shape

theorem isFull_of_makes {other : String} {shape : Shape} (h : s.Makes other shape changed)
    (hfull : s.isFull name = true) : changed.isFull name = true := by
  rcases h with ⟨-, rfl⟩ | ⟨-, rfl⟩
  · exact hfull
  · exact isFull_insert hfull _ _

theorem makes_of_createTable {m : Mention} {shape : Shape}
    (h : s.createTable m shape = .ok changed) : s.Makes m.name shape changed := by
  unfold createTable at h
  split at h
  · contradiction
  split at h
  · contradiction
  split at h
  · cases h
    exact .inr ⟨‹_›, rfl⟩
  · rename_i object hfound
    split at h
    · contradiction
    split at h
    · cases h
      exact .inl ⟨hfound ▸ rfl, rfl⟩
    · contradiction

theorem makes_of_ensureIndex {index table column : String}
    (h : s.ensureIndex index table column = .ok changed) :
    s.Makes index (.index (fold table)) changed := by
  unfold ensureIndex at h
  split at h
  · contradiction
  split at h
  · rename_i other hfound
    split at h
    · contradiction
    · cases h
      exact .inl ⟨hfound ▸ rfl, rfl⟩
  split at h
  · cases h
    exact .inr ⟨‹_›, rfl⟩
  · contradiction

/-- A change of the schema that leaves a table with all its columns. -/
def Spares (name : String) (body : Schema → Except Fault Schema) : Prop :=
  ∀ s changed, body s = .ok changed → s.isFull name = true → changed.isFull name = true

theorem spares_createTable (m : Mention) (shape : Shape) :
    Spares name (·.createTable m shape) :=
  fun _ _ h hfull => isFull_of_makes (makes_of_createTable h) hfull

theorem spares_ensureIndex (index table column : String) :
    Spares name (·.ensureIndex index table column) :=
  fun _ _ h hfull => isFull_of_makes (makes_of_ensureIndex h) hfull

theorem spares_dropIndex (index : String) : Spares name fun s => .ok (s.dropIndex index) := by
  intro s changed h hfull
  cases h
  exact isFull_filter hfull fun o _ htable => by simp [htable]

theorem isFull_dropTable {table : String} (h : s.isFull name = true)
    (hne : fold table ≠ fold name) : (s.dropTable table).isFull name = true := by
  refine isFull_filter h fun o ho htable => ?_
  have hindex : o.shape ≠ .index (fold table) := by
    intro hshape
    simp [Object.isTable, hshape] at htable
  simp [hindex, ho, Ne.symm hne]

end Schema

theorem Migration.resolveTable_eq_ok_iff {s : Schema} :
    resolveTable s = .ok () ↔ s.isFull tableName = true := by
  constructor
  · intro h
    obtain ⟨_, -, hcolumns⟩ := ok_of_bind h
    obtain ⟨_, hcolumn, -⟩ := ok_of_bind hcolumns
    by_contra hfull
    have hrefused : s.requireColumn tableName "version" = .error (.noSuchColumn "version") :=
      if_neg hfull
    cases hrefused.symm.trans hcolumn
  · exact fun h => Schema.resolve_of_isFull h "version"

open Change (Apart)

section

variable {resolve : Schema → Except Fault Unit} {records : Std.ExtTreeMap Int Applied}

theorem statement_withRecords {body : Database → Except Fault (Unit × Database)}
    (h : body (db.withRecords records) =
      (body db).map fun result => (result.1, result.2.withRecords records)) :
    StateT.run (statement resolve body) (db.withRecords records) =
      (StateT.run (statement resolve body) db).map
        fun result => (result.1, result.2.withRecords records) := by
  change (do
    if db.closed then throw .closed
    resolve db.schema
    body (db.withRecords records)) = Except.map _ (do
    if db.closed then throw .closed
    resolve db.schema
    body db)
  rw [h]
  cases db.closed with
  | true => rfl
  | false => cases resolve db.schema <;> rfl

theorem unlessBarred_withRecords (db made : Database) (records : Std.ExtTreeMap Int Applied) :
    unlessBarred (db.withRecords records) (.ok ((), made.withRecords records)) =
      (unlessBarred db (.ok ((), made))).map
        fun result => (result.1, result.2.withRecords records) := by
  obtain ⟨schema, rows, closed, barrier⟩ := db
  cases barrier <;> rfl

end

theorem apart_define {body : Schema → Except Fault Schema}
    (h : Schema.Spares Migration.tableName body) : (define body).Apart where
  run_withRecords db records := by
    apply statement_withRecords
    change (body db.schema >>= fun schema => _) = Except.map _ (body db.schema >>= fun schema => _)
    cases body db.schema with
    | error fault => rfl
    | ok schema =>
      change (if schema = db.schema then _ else _) =
        Except.map _ (if schema = db.schema then _ else _)
      split
      · rfl
      · exact unlessBarred_withRecords db { db with schema } records
  hasRecords hrun hdb := by
    obtain ⟨schema, hbody, rfl⟩ := ok_of_define hrun
    refine ⟨hdb.isOpen, Migration.resolveTable_eq_ok_iff.mpr (h _ _ hbody ?_)⟩
    exact Migration.resolveTable_eq_ok_iff.mp hdb.resolves

theorem Rows.clear_records {r : Rows} {table : String} {records : Std.ExtTreeMap Int Applied}
    (h : table ≠ Migration.tableName) :
    clear { r with applied := records } table = { r.clear table with applied := records } := by
  unfold clear
  split <;> first | rfl | contradiction

/-- A table is looked up to be dropped, unless it is the list of all objects. -/
theorem Schema.findToDrop_ifAny (s : Schema) {name : String}
    (hown : catalog.lookup (fold name) = none) :
    s.findToDrop (.ifAny name) = match s.table? name with
      | some o => if o.shape = .internal then .error (.cannotDrop o.name) else .ok (some o.name)
      | none => .ok none := by
  unfold findToDrop
  simp only [Mention.ifAny, hown]
  rfl

theorem Schema.table?_of_findToDrop {s : Schema} {name found : String}
    (h : s.findToDrop (.ifAny name) = .ok (some found)) :
    ∃ o, s.table? name = some o ∧ o.name = found := by
  cases hown : catalog.lookup (fold name) with
  | some own =>
    have hrefused : s.findToDrop (.ifAny name) = .error (.cannotDrop own) := by
      unfold findToDrop
      simp only [Mention.ifAny, hown]
      rfl
    rw [hrefused] at h
    contradiction
  | none =>
    rw [s.findToDrop_ifAny hown] at h
    cases htable : s.table? name with
    | none => simp [htable] at h
    | some o =>
      simp only [htable] at h
      split at h
      · contradiction
      · cases h
        exact ⟨o, rfl, rfl⟩

theorem Schema.fold_of_table? {s : Schema} {name : String} {o : Object}
    (h : s.table? name = some o) : fold o.name = fold name := by
  have hfound := (Option.filter_eq_some_iff.mp h).1
  simpa using List.find?_some hfound

theorem apart_drop {name : String} (h : Schema.fold name ≠ Migration.tableName) :
    (dropTableIfAny name).Apart where
  run_withRecords db records := by
    unfold dropTableIfAny drop
    apply statement_withRecords
    change (db.schema.findToDrop (.ifAny name) >>= fun found => _) =
      Except.map _ (db.schema.findToDrop (.ifAny name) >>= fun found => _)
    cases hfound : db.schema.findToDrop (.ifAny name) with
    | error fault => rfl
    | ok found =>
      cases found with
      | none => rfl
      | some found =>
        obtain ⟨o, htable, rfl⟩ := Schema.table?_of_findToDrop hfound
        rw [← Schema.fold_of_table? htable] at h
        change (db.schema.resolveDrop o.name >>= fun _ => _) =
          Except.map _ (db.schema.resolveDrop o.name >>= fun _ => _)
        cases db.schema.resolveDrop o.name with
        | error fault => rfl
        | ok _ =>
          refine Eq.trans ?_ (unlessBarred_withRecords db _ records)
          change unlessBarred _ (.ok ((), { db with
            schema := db.schema.dropTable o.name
            rows := Rows.clear { db.rows with applied := records } (Schema.fold o.name) })) = _
          rw [Rows.clear_records h]
          rfl
  hasRecords hrun hdb := by
    obtain ⟨m, hm, ⟨-, rfl⟩ | ⟨found, hfound, rfl⟩⟩ := ok_of_drop hrun
    · exact hdb
    · cases hm
      obtain ⟨o, htable, rfl⟩ := Schema.table?_of_findToDrop hfound
      refine ⟨hdb.isOpen, Migration.resolveTable_eq_ok_iff.mpr (Schema.isFull_dropTable ?_ ?_)⟩
      · exact Migration.resolveTable_eq_ok_iff.mp hdb.resolves
      · have hsame : Schema.fold Migration.tableName = Migration.tableName := by decide +kernel
        rw [hsame, Schema.fold_of_table? htable]
        exact h

/-! ## The built-in migrations -/

namespace Layout

theorem apart_steps {changes : List (Change Fault Unit)} (h : ∀ c ∈ changes, c.Apart) :
    (steps changes).Apart :=
  Change.apart_forM fun c hc => (h c hc).mapError _

theorem apart_up {m : Migration} (hm : m ∈ all) : m.up.Apart := by
  have htable (name : String) : (ensureTable name).Apart :=
    apart_define (Schema.spares_createTable _ _)
  have hindex (name table column : String) : (ensureIndex name table column).Apart :=
    apart_define (Schema.spares_ensureIndex name table column)
  simp only [all, List.mem_cons, List.not_mem_nil, or_false] at hm
  rcases hm with rfl | rfl | rfl
  · exact apart_steps (List.forall_mem_singleton.mpr (htable "users"))
  · apply apart_steps
    intro c hc
    obtain ⟨name, -, rfl⟩ := List.mem_map.mp hc
    exact htable name
  · exact apart_steps
      (List.forall_mem_cons.mpr ⟨hindex _ _ _, List.forall_mem_singleton.mpr (hindex _ _ _)⟩)

theorem apart_down {m : Migration} (hm : m ∈ all) : m.down.Apart := by
  have hindex (name : String) : (dropIndex name).Apart :=
    apart_define (Schema.spares_dropIndex name)
  have hnames : ∀ name ∈ ["users", "role_permissions", "user_roles", "permissions", "roles"],
      Schema.fold name ≠ Migration.tableName := by decide +kernel
  simp only [all, List.mem_cons, List.not_mem_nil, or_false] at hm
  rcases hm with rfl | rfl | rfl
  · exact apart_steps (List.forall_mem_singleton.mpr (apart_drop (hnames _ List.mem_cons_self)))
  · apply apart_steps
    intro c hc
    obtain ⟨name, hname, rfl⟩ := List.mem_map.mp hc
    exact apart_drop (hnames name (List.mem_cons_of_mem _ hname))
  · exact apart_steps
      (List.forall_mem_cons.mpr ⟨hindex _, List.forall_mem_singleton.mpr (hindex _)⟩)

end Layout

end Gatehouse.Database
