import Gatehouse.Proofs.Database.Change
import Mathlib.Control.Monad.Basic

/-! The layout of a new directory. Laying it out succeeds whenever it is done, and leaves all tables
and indexes without a row but for the records of the migrations. -/
namespace Gatehouse.Database

variable {db : Database} {α : Type}

/-- A database that is open and not barred against changes. -/
structure IsFree (db : Database) : Prop where
  isOpen : db.closed = false
  unbarred : db.barrier = none

theorem run_statement (hopen : db.closed = false) {resolve : Schema → Except Fault Unit}
    {body : Database → Except Fault (α × Database)} (hresolve : resolve db.schema = .ok ()) :
    StateT.run (statement resolve body) db = body db := by
  change (do
    if db.closed then throw .closed
    resolve db.schema
    body db) = body db
  rw [hopen, hresolve]
  rfl

theorem run_query (hopen : db.closed = false) {resolve : Schema → Except Fault Unit}
    {answer : Rows → α} (hresolve : resolve db.schema = .ok ()) :
    StateT.run (query resolve answer) db = .ok (answer db.rows, db) :=
  run_statement hopen hresolve

theorem run_update (hdb : db.IsFree) {resolve : Schema → Except Fault Unit}
    {body : Rows → Except Fault (α × Rows)} (hresolve : resolve db.schema = .ok ()) :
    StateT.run (update resolve body) db =
      (body db.rows).map fun (answer, rows) => (answer, { db with rows }) := by
  refine (run_statement hdb.isOpen hresolve).trans ?_
  rw [unlessBarred, hdb.unbarred]

theorem run_define (hdb : db.IsFree) {body : Schema → Except Fault Schema} {schema : Schema}
    (hbody : body db.schema = .ok schema) :
    StateT.run (define body) db = .ok ((), { db with schema }) := by
  refine (run_statement hdb.isOpen rfl).trans ?_
  rw [hbody]
  change (if schema = db.schema then .ok ((), db)
    else unlessBarred db (.ok ((), { db with schema }))) = _
  split
  · rename_i hsame
    rw [hsame]
  · rw [unlessBarred, hdb.unbarred]

theorem run_mapError {ε δ : Type} {c : Change ε α} {f : ε → δ} {result : α × Database}
    (h : StateT.run c db = .ok result) : StateT.run (c.mapError f) db = .ok result :=
  congrArg (Except.mapError f) h

theorem run_bind {ε β : Type} {c : Change ε α} {f : α → Change ε β} {after : Database} {answer : α}
    (h : StateT.run c db = .ok (answer, after)) :
    StateT.run (c >>= f) db = StateT.run (f answer) after := by
  rw [StateT.run_bind, h]
  rfl

theorem run_bind_error {ε β : Type} {c : Change ε α} {f : α → Change ε β} {e : ε}
    (h : StateT.run c db = .error e) : StateT.run (c >>= f) db = .error e := by
  rw [StateT.run_bind, h]
  rfl

/-! ## Tables that are there -/

namespace Schema

variable {s : Schema} {name : String}

/-- Whether a table of that very name has all its columns. -/
def Has (s : Schema) (name : String) : Prop := s.find? name = some ⟨name, .full⟩

theorem table?_of_has (h : s.Has name) : s.table? name = some ⟨name, .full⟩ := by
  rw [table?, h]
  rfl

theorem isFull_of_has (h : s.Has name) : s.isFull name = true := by
  rw [isFull, h]
  rfl

/-- Among names without capitals an object is found by its very name. -/
theorem has_of_find? (hplain : ∀ o ∈ s.objects, fold o.name = o.name) (hname : fold name = name)
    (h : s.objects.find? (·.name = name) = some ⟨name, .full⟩) : s.Has name := by
  rw [Has, find?, hname, ← h, ← List.head?_filter, ← List.head?_filter]
  exact congrArg List.head? (List.filter_congr fun o ho => by rw [hplain o ho])

theorem forM_eq_ok {α ε : Type} {items : List α} {f : α → Except ε PUnit}
    (h : ∀ item ∈ items, f item = .ok ⟨⟩) : items.forM f = .ok ⟨⟩ := by
  induction items with
  | nil => rfl
  | cons item items ih =>
    obtain ⟨hitem, hitems⟩ := List.forall_mem_cons.mp h
    change (f item >>= fun _ => items.forM f) = .ok ⟨⟩
    rw [hitem]
    exact ih hitems

theorem requireTable_of_has (h : s.Has name) : s.requireTable name = .ok () := by
  rw [requireTable, table?_of_has h]
  rfl

theorem resolve_of_has {tables : List String} {columns : List (String × String)}
    (htables : ∀ table ∈ tables, s.Has table) (hcolumns : ∀ column ∈ columns, s.Has column.1) :
    s.resolve tables columns = .ok () := by
  have hfirst : tables.forM s.requireTable = .ok () :=
    forM_eq_ok fun table htable => requireTable_of_has (htables table htable)
  unfold resolve
  rw [hfirst]
  exact forM_eq_ok fun column hcolumn => if_pos (isFull_of_has (hcolumns column hcolumn))

theorem resolveInsert_of_has (h : s.Has name) (column : String) :
    s.resolveInsert name column = .ok () := by
  unfold resolveInsert
  rw [requireTable_of_has h, isFull_of_has h]
  rfl

theorem resolveParent_of_has (h : s.Has name) (child : String) :
    s.resolveParent child name = .ok () := by
  rw [resolveParent, table?_of_has h]
  rfl

theorem resolveParents_of_has {child : String} (h : ∀ parent ∈ parents child, s.Has parent) :
    s.resolveParents child = .ok () :=
  forM_eq_ok fun parent hparent => resolveParent_of_has (h parent hparent) child

theorem resolveLoss_of_has {table : String}
    (h : ∀ child ∈ s.children table, ∀ parent ∈ parents child, s.Has parent) :
    s.resolveLoss table = .ok () :=
  forM_eq_ok fun child hchild => resolveParents_of_has (h child hchild)

theorem resolveDelete_of_has {table : String} (htable : s.Has table)
    (h : ∀ child ∈ s.children table, ∀ parent ∈ parents child, s.Has parent) :
    s.resolveDelete table = .ok () := by
  have hkeys : ((s.children table).forM fun child => s.resolveParent child table) = .ok () :=
    forM_eq_ok fun child _ => resolveParent_of_has htable child
  unfold resolveDelete
  rw [requireTable_of_has htable, hkeys, resolveLoss_of_has h]
  rfl

end Schema

namespace Layout

/-- Changes of the schema made one after another. -/
def reshape (bodies : List (Schema → Except Fault Schema)) (s : Schema) : Except Fault Schema :=
  bodies.foldlM (fun s body => body s) s

theorem run_steps (hdb : db.IsFree) {bodies : List (Schema → Except Fault Schema)} {schema : Schema}
    (h : reshape bodies db.schema = .ok schema) :
    StateT.run (steps (bodies.map define)) db = .ok ((), { db with schema }) := by
  induction bodies generalizing db with
  | nil =>
    cases h
    rfl
  | cons body bodies ih =>
    obtain ⟨first, hfirst, hrest⟩ := ok_of_bind h
    have hfree : IsFree { db with schema := first } := ⟨hdb.isOpen, hdb.unbarred⟩
    exact (run_bind (run_mapError (run_define hdb hfirst))).trans (ih hfree hrest)

theorem run_applyOnce (hdb : db.IsFree) {m : Migration} {second : Int} {schema : Schema}
    (bodies : List (Schema → Except Fault Schema)) (hup : m.up = steps (bodies.map define))
    (hbefore : Migration.resolveTable db.schema = .ok ())
    (hnew : db.rows.applied.contains m.version = false)
    (hschema : reshape bodies db.schema = .ok schema)
    (hafter : Migration.resolveTable schema = .ok ()) :
    (m.applyOnce second).run db = (.ok (), { db with
      schema
      rows := { db.rows with applied := db.rows.applied.insert m.version ⟨m.name, second⟩ } }) := by
  have happlied : StateT.run (Migration.isApplied m.version) db = .ok (false, db) := by
    rw [← hnew]
    exact run_mapError (run_query hdb.isOpen hbefore)
  have hfree : IsFree { db with schema } := ⟨hdb.isOpen, hdb.unbarred⟩
  have hrun : StateT.run (m.applyOnce second) db =
      StateT.run (m.record second) { db with schema } := by
    refine (run_bind happlied).trans ?_
    rw [hup]
    exact run_bind (run_steps hdb hschema)
  unfold Change.run
  rw [hrun, Migration.record, run_mapError (run_update hfree hafter)]

/-! ## The layout, one migration after another -/

/-- The making of a table, if there is none of that name. -/
def making (table : String) (s : Schema) : Except Fault Schema := s.createTable (.ifAny table) .full

def makeUsers : List (Schema → Except Fault Schema) := [making "users"]

def makeAccess : List (Schema → Except Fault Schema) :=
  ["roles", "permissions", "user_roles", "role_permissions"].map making

def makeIndexes : List (Schema → Except Fault Schema) :=
  [(·.ensureIndex "idx_user_roles_role_id" "user_roles" "role_id"),
    (·.ensureIndex "idx_role_permissions_permission_id" "role_permissions" "permission_id")]

/-- The schema with the table of records and some other objects. -/
def recording (others : List Object) : Schema := ⟨⟨Migration.tableName, .full⟩ :: others⟩

def userObjects : List Object := [⟨"users", .full⟩, ⟨Schema.sequence, .internal⟩]

def accessObjects : List Object :=
  userObjects ++ ["roles", "permissions", "user_roles", "role_permissions"].map (⟨·, .full⟩)

def allObjects : List Object :=
  accessObjects ++ [⟨"idx_user_roles_role_id", .index "user_roles"⟩,
    ⟨"idx_role_permissions_permission_id", .index "role_permissions"⟩]

theorem reshape_users : reshape makeUsers (recording []) = .ok (recording userObjects) := by
  decide +kernel

theorem reshape_access :
    reshape makeAccess (recording userObjects) = .ok (recording accessObjects) := by
  decide +kernel

theorem reshape_indexes :
    reshape makeIndexes (recording accessObjects) = .ok (recording allObjects) := by
  decide +kernel

theorem resolveTable_recording (others : List Object) :
    Migration.resolveTable (recording others) = .ok () := by
  have hrecords : (recording others).Has Migration.tableName := by
    simp [Schema.Has, Schema.find?, recording]
  exact Schema.resolve_of_has (List.forall_mem_singleton.mpr hrecords)
    (List.forall_mem_singleton.mpr hrecords)

/-- A database with the table of records, and with what a record of each of some migrations says. -/
def recorded (others : List Object) (second : Int) (ms : List Migration) : Database :=
  let applied := ms.foldl (fun applied m => applied.insert m.version ⟨m.name, second⟩) ∅
  ⟨recording others, { Rows.empty with applied }, false, none⟩

theorem run_prepare : Migration.prepare.run .empty = (.ok (), recorded [] 0 []) := by
  have hmade : making Migration.tableName .empty = .ok (recording []) := by decide +kernel
  unfold Change.run Migration.prepare ensureTable
  rw [run_mapError (run_define ⟨rfl, rfl⟩ hmade)]
  rfl

theorem run_users (second : Int) :
    (users.applyOnce second).run (recorded [] second []) =
      (.ok (), recorded userObjects second [users]) :=
  run_applyOnce ⟨rfl, rfl⟩ makeUsers rfl (resolveTable_recording _)
    (by simp [recorded]) reshape_users (resolveTable_recording _)

theorem run_access (second : Int) :
    (access.applyOnce second).run (recorded userObjects second [users]) =
      (.ok (), recorded accessObjects second [users, access]) :=
  run_applyOnce ⟨rfl, rfl⟩ makeAccess rfl (resolveTable_recording _)
    (by simp [recorded, users, access]) reshape_access (resolveTable_recording _)

theorem run_indexes (second : Int) :
    (indexes.applyOnce second).run (recorded accessObjects second [users, access]) =
      (.ok (), recorded allObjects second all) :=
  run_applyOnce ⟨rfl, rfl⟩ makeIndexes rfl (resolveTable_recording _)
    (by simp [recorded, users, access, indexes]) reshape_indexes (resolveTable_recording _)

theorem checkVersions_all : Migration.checkVersions (Migration.versions all) = .ok () := by
  decide +kernel

theorem runAll_cons_of_ok {change : Change MigrationError Unit} {db after : Database}
    (h : change.run db = (.ok (), after)) (rest : List (Change MigrationError Unit)) :
    Migration.runAll (change :: rest) db = Migration.runAll rest after := by
  rw [Migration.runAll, h]

theorem upAll_of_ok {second : Int} {ms : List Migration}
    (h : Migration.checkVersions (Migration.versions ms) = .ok ()) (db : Database) :
    Migration.upAll second ms db = Migration.runAll (ms.map (·.applyOnce second)) db := by
  rw [Migration.upAll, h]

theorem migrate_of_ok {second : Int} {db middle after : Database}
    (hprepare : Migration.prepare.run db = (.ok (), middle))
    (hup : Migration.upAll second all middle = (.ok (), after)) :
    migrate second db = (.ok (), after) := by
  simp only [migrate, hprepare, hup]
  rfl

theorem migrate_empty (second : Int) :
    migrate second .empty = (.ok (), recorded allObjects second all) := by
  refine migrate_of_ok run_prepare ((upAll_of_ok checkVersions_all _).trans ?_)
  refine (runAll_cons_of_ok (run_users second) _).trans ?_
  refine (runAll_cons_of_ok (run_access second) _).trans ?_
  exact runAll_cons_of_ok (run_indexes second) _

/-- The tables of users, roles and permissions. -/
def tables : List String := ["users", "roles", "permissions", "user_roles", "role_permissions"]

/-- The names of the tables have no capitals. -/
theorem fold_of_mem {table : String} (h : table ∈ tables) : Schema.fold table = table := by
  have hplain : ∀ table ∈ tables, Schema.fold table = table := by decide +kernel
  exact hplain table h

theorem has_of_mem {table : String} (h : table ∈ tables) : (recording allObjects).Has table := by
  have hplain : ∀ o ∈ (recording allObjects).objects, Schema.fold o.name = o.name := by
    decide +kernel
  have hfind : ∀ table ∈ tables,
      (recording allObjects).objects.find? (·.name = table) = some ⟨table, .full⟩ := by
    decide +kernel
  exact Schema.has_of_find? hplain (fold_of_mem h) (hfind table h)

end Layout

/-- A database in which all tables of the directory can be used. -/
structure Serves (db : Database) : Prop extends IsFree db where
  has (table : String) (h : table ∈ Layout.tables) : db.schema.Has table

theorem Serves.resolve (h : db.Serves) {tables : List String} {columns : List (String × String)}
    (htables : ∀ table ∈ tables, table ∈ Layout.tables)
    (hcolumns : ∀ column ∈ columns, column.1 ∈ Layout.tables) :
    db.schema.resolve tables columns = .ok () :=
  Schema.resolve_of_has (fun table htable => h.has table (htables table htable))
    fun column hcolumn => h.has _ (hcolumns column hcolumn)

theorem Serves.parents (h : db.Serves) (child parent : String)
    (hparent : parent ∈ Schema.parents child) : db.schema.Has parent := by
  have hnamed : ∀ parent ∈ Schema.parents child, parent ∈ Layout.tables := by
    unfold Schema.parents
    split <;> decide
  exact h.has parent (hnamed parent hparent)

/-- An open database with the whole layout, in which changes can be made. -/
structure IsLaid (db : Database) : Prop extends IsFree db where
  schema_eq : db.schema = Layout.recording Layout.allObjects

theorem IsLaid.serves (h : db.IsLaid) : db.Serves where
  toIsFree := h.toIsFree
  has table htable := by
    rw [h.schema_eq]
    exact Layout.has_of_mem htable

theorem IsLaid.resolve (h : db.IsLaid) {tables : List String} {columns : List (String × String)}
    (htables : ∀ table ∈ tables, table ∈ Layout.tables)
    (hcolumns : ∀ column ∈ columns, column.1 ∈ Layout.tables) :
    db.schema.resolve tables columns = .ok () :=
  h.serves.resolve htables hcolumns

end Gatehouse.Database
