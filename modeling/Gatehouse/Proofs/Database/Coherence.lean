import Gatehouse.Proofs.Database.Migration
import Gatehouse.Proofs.Database.Outcome
import Gatehouse.Proofs.Database.Parts

/-! What the built-in migrations leave behind, in whatever order they have gone up and down. Tables
are there just if their migration is recorded, and those that are not there have no rows, whatever
the directory has been asked to do. -/
namespace Gatehouse.Database

open Layout (records builtIn parts table home)

/-! ## Tables without rows -/

namespace Rows

variable {r : Rows} {name : String}

theorem applied_clear (h : name ≠ Migration.tableName) : (r.clear name).applied = r.applied := by
  unfold clear
  split <;> first | rfl | contradiction

/-- Whether a table has no rows. -/
def Vacant (r : Rows) : String → Prop
  | "users" => r.users = .empty
  | "roles" => r.roles = .empty
  | "permissions" => r.permissions = .empty
  | "user_roles" => r.userRoles = []
  | "role_permissions" => r.rolePermissions = []
  | _ => True

theorem vacant_records (r : Rows) (records : Std.ExtTreeMap Int Applied) (name : String) :
    Vacant { r with applied := records } name = r.Vacant name := by
  unfold Vacant
  split <;> rfl

theorem vacant_clear_self (r : Rows) {name : String} (h : name ∈ Layout.tables) :
    (r.clear name).Vacant name := by
  simp only [Layout.tables, List.mem_cons, List.not_mem_nil, or_false] at h
  rcases h with rfl | rfl | rfl | rfl | rfl <;> rfl

theorem Vacant.clear (h : r.Vacant name) (other : String) : (r.clear other).Vacant name := by
  unfold Rows.clear
  unfold Vacant at h ⊢
  split
  case h_6 => trivial
  all_goals split <;> simp_all

end Rows

/-! ## Orderly databases -/

/-- A database of built-in objects in which no row is without its table. -/
structure IsOrderly (db : Database) : Prop extends IsFree db where
  builtIn : db.schema.IsBuiltIn
  vacant (name : String) (h : name ∈ Layout.tables) (habsent : table name ∉ db.schema.objects) :
    db.rows.Vacant name

namespace Migration.Way

variable {ε δ : Type} {w : Way} {c d : Change ε Unit} {os others : List Object}
  {db after : Database}

/-- How some objects are settled by a change on the way: they are there in the end, or they are not.
No other has come, and of the others only indexes can have gone, down with their tables. -/
structure Settled (w : Way) (os : List Object) (s changed : Schema) : Prop where
  came {o : Object} (ho : o ≠ Layout.numbers) (h : o ∈ changed.objects) :
    o ∈ os ∧ w.leaves = true ∨ o ∉ os ∧ o ∈ s.objects
  mem_iff {o : Object} (ho : o ≠ Layout.numbers) (hstays : w.leaves = true ∨ o.isTable = true) :
    o ∈ changed.objects ↔ if o ∈ os then w.leaves = true else o ∈ s.objects

/-- A change that settles some objects, keeps a database orderly and knows nothing of records. -/
def Settles (w : Way) (c : Change ε Unit) (os : List Object) : Prop :=
  ∀ db after, db.IsOrderly → StateT.run c db = .ok ((), after) →
    after.IsOrderly ∧ after.rows.applied = db.rows.applied ∧ w.Settled os db.schema after.schema

theorem settles_pure : w.Settles (pure () : Change ε Unit) [] := by
  intro db after hdb h
  cases h
  exact ⟨hdb, rfl, fun _ h => .inr ⟨List.not_mem_nil, h⟩, fun _ _ => by simp⟩

theorem Settles.bind (hc : w.Settles c os) (hd : w.Settles d others) :
    w.Settles (c >>= fun _ => d) (os ++ others) := by
  intro db after hdb h
  obtain ⟨_, middle, hfirst, hrest⟩ := ok_of_run_bind h
  obtain ⟨hmiddle, hrecords, hsettled⟩ := hc db middle hdb hfirst
  obtain ⟨hafter, hkept, hlast⟩ := hd middle after hmiddle hrest
  refine ⟨hafter, hkept.trans hrecords, fun {o} ho hmem => ?_, fun {o} ho hstays => ?_⟩
  · rcases hlast.came ho hmem with ⟨hother, hleaves⟩ | ⟨hother, hmem⟩
    · exact .inl ⟨List.mem_append_right os hother, hleaves⟩
    rcases hsettled.came ho hmem with ⟨hfirst, hleaves⟩ | ⟨hfirst, hmem⟩
    · exact .inl ⟨List.mem_append_left others hfirst, hleaves⟩
    · exact .inr ⟨by simp [hfirst, hother], hmem⟩
  · rw [hlast.mem_iff ho hstays]
    by_cases hother : o ∈ others <;> by_cases hmem : o ∈ os <;>
      simp [hsettled.mem_iff ho hstays, hother, hmem]

theorem Settles.mapError (hc : w.Settles c os) (f : ε → δ) : w.Settles (c.mapError f) os :=
  fun db after hdb h => hc db after hdb (Change.run_eq_ok h)

theorem Settles.perm (hc : w.Settles c os) (h : os.Perm others) : w.Settles c others := by
  intro db after hdb hrun
  obtain ⟨hafter, hrecords, hsettled⟩ := hc db after hdb hrun
  refine ⟨hafter, hrecords, fun ho hmem => ?_, fun ho hstays => ?_⟩
  · simpa only [h.mem_iff] using hsettled.came ho hmem
  · simpa only [h.mem_iff] using hsettled.mem_iff ho hstays

theorem settles_steps (items : List (Change Fault Unit × List Object))
    (h : ∀ item ∈ items, w.Settles item.1 item.2) :
    w.Settles (Layout.steps (items.map Prod.fst)) (items.flatMap Prod.snd) := by
  induction items with
  | nil => exact settles_pure
  | cons item items ih =>
    obtain ⟨hitem, hrest⟩ := List.forall_mem_cons.mp h
    exact (hitem.mapError _).bind (ih hrest)

/-! ## Single statements -/

theorem settles_of_makes {second : Int} {body : Schema → Except Fault Schema} {o : Object}
    (ho : o ∈ parts) (hbody : ∀ s changed, body s = .ok changed → s.Makes o.name o.shape changed) :
    (up second).Settles (define body) [o] := by
  intro db after hdb h
  obtain ⟨schema, hmade, rfl⟩ := ok_of_define h
  obtain ⟨hbuiltIn, hmem⟩ :=
    hdb.builtIn.of_makes (Layout.mem_builtIn_of_parts ho) (hbody _ _ hmade)
  have hsettled (other : Object) (hother : other ≠ Layout.numbers) :
      other ∈ schema.objects ↔ if other ∈ [o] then True else other ∈ db.schema.objects := by
    rw [hmem other hother]
    by_cases hsame : other = o <;> simp [hsame]
  refine ⟨⟨⟨hdb.isOpen, hdb.unbarred⟩, hbuiltIn, fun name hname habsent => ?_⟩, rfl,
    fun {other} hother h => ?_, fun hother _ => ?_⟩
  · apply hdb.vacant name hname
    intro hthere
    exact habsent ((hmem _ (Layout.table_ne_numbers name)).mpr (.inl hthere))
  · by_cases hsame : other ∈ [o]
    · exact .inl ⟨hsame, rfl⟩
    · have hthere := (hsettled other hother).mp h
      rw [if_neg hsame] at hthere
      exact .inr ⟨hsame, hthere⟩
  · simpa [leaves] using hsettled _ hother

theorem settles_ensureTable {second : Int} {name : String} (hname : name ∈ Layout.tables) :
    (up second).Settles (ensureTable name) [table name] :=
  settles_of_makes (Layout.table_mem_parts hname) fun _ _ => Schema.makes_of_createTable

theorem settles_ensureIndex {second : Int} {name target : String} (column : String)
    (ho : ⟨name, .index target⟩ ∈ parts) (hplain : Schema.fold target = target) :
    (up second).Settles (ensureIndex name target column) [⟨name, .index target⟩] :=
  settles_of_makes ho fun _ _ h => by
    have hmakes := Schema.makes_of_ensureIndex h
    rwa [hplain] at hmakes

theorem settles_dropIndex {name target : String} (ho : ⟨name, .index target⟩ ∈ parts) :
    down.Settles (dropIndex name) [⟨name, .index target⟩] := by
  intro db after hdb h
  obtain ⟨schema, hdropped, rfl⟩ := ok_of_define h
  cases hdropped
  have hmem (other : Object) : other ∈ (db.schema.dropIndex name).objects ↔
      other ∈ db.schema.objects ∧ other ≠ ⟨name, .index target⟩ :=
    hdb.builtIn.mem_dropIndex (Layout.mem_builtIn_of_parts ho) rfl
  have hother {other : Object} (htable : other.isTable = true) :
      other ≠ ⟨name, .index target⟩ := by
    rintro rfl
    contradiction
  refine ⟨⟨⟨hdb.isOpen, hdb.unbarred⟩, hdb.builtIn.dropIndex _, fun name hname habsent => ?_⟩, rfl,
    fun _ h => ?_, fun _ hstays => ?_⟩
  · exact hdb.vacant name hname fun hthere => habsent ((hmem _).mpr ⟨hthere, hother rfl⟩)
  · obtain ⟨hthere, hne⟩ := (hmem _).mp h
    exact .inr ⟨by simpa using hne, hthere⟩
  · rw [hmem]
    simp [hother (hstays.resolve_left nofun)]

theorem settled_of_absent {s : Schema} {o : Object} (habsent : o ∉ s.objects) :
    down.Settled [o] s s where
  came {other} _ h := by
    refine .inr ⟨fun hmem => ?_, h⟩
    rw [List.mem_singleton.mp hmem] at h
    exact habsent h
  mem_iff {other} _ _ := by
    by_cases hsame : other = o <;> simp [hsame, habsent, leaves]

theorem settled_dropTable {s : Schema} (hs : s.IsBuiltIn) {name : String}
    (hname : name ∈ Layout.tables) : down.Settled [table name] s (s.dropTable name) where
  came {other} _ h := by
    obtain ⟨hthere, hne, -⟩ := (hs.mem_dropTable hname).mp h
    exact .inr ⟨by simpa using hne, hthere⟩
  mem_iff {other} _ hstays := by
    have htable : other.isTable = true := hstays.resolve_left nofun
    have hindex : other.shape ≠ .index name := by
      intro hshape
      simp [Object.isTable, hshape] at htable
    rw [hs.mem_dropTable hname]
    by_cases hsame : other = table name <;> simp [hsame, hindex, leaves]

theorem settles_drop {name : String} (hname : name ∈ Layout.tables) :
    down.Settles (dropTableIfAny name) [table name] := by
  intro db after hdb h
  obtain ⟨m, hm, hcases⟩ := ok_of_drop h
  cases hm
  rw [hdb.builtIn.findToDrop_eq hname] at hcases
  by_cases hthere : table name ∈ db.schema.objects
  · have hne : ∀ name ∈ Layout.tables, name ≠ Migration.tableName := by decide +kernel
    have hfold := Layout.fold_of_mem hname
    rw [if_pos hthere] at hcases
    rcases hcases with ⟨hnone, -⟩ | ⟨found, hfound, rfl⟩
    · cases hnone
    · cases hfound
      have hsettled := settled_dropTable hdb.builtIn hname
      refine ⟨⟨⟨hdb.isOpen, hdb.unbarred⟩, hdb.builtIn.dropTable hname,
        fun other hother habsent => ?_⟩, ?_, hsettled⟩
      · dsimp only at habsent ⊢
        rw [hfold]
        by_cases hsame : other = name
        · rw [hsame]
          exact Rows.vacant_clear_self _ hname
        · refine (hdb.vacant other hother fun hmem => habsent ?_).clear name
          refine (hdb.builtIn.mem_dropTable hname).mpr ⟨hmem, ?_, nofun⟩
          exact fun heq => hsame (congrArg Object.name heq)
      · dsimp only
        rw [hfold]
        exact Rows.applied_clear (hne name hname)
  · rw [if_neg hthere] at hcases
    rcases hcases with ⟨-, rfl⟩ | ⟨found, hfound, -⟩
    · exact ⟨hdb, rfl, settled_of_absent hthere⟩
    · cases hfound

/-! ## The built-in migrations -/

theorem settles_up {second : Int} {m : Migration} (hm : m ∈ Layout.all) :
    (up second).Settles m.up (parts.filter (home · = m.version)) := by
  have htables : ∀ name ∈ ["roles", "permissions", "user_roles", "role_permissions"],
      name ∈ Layout.tables := by decide
  simp only [Layout.all, List.mem_cons, List.not_mem_nil, or_false] at hm
  rcases hm with rfl | rfl | rfl
  · refine (settles_steps [(ensureTable "users", [table "users"])] ?_).perm (by decide +kernel)
    exact List.forall_mem_singleton.mpr (settles_ensureTable (by decide))
  · refine (settles_steps (["roles", "permissions", "user_roles", "role_permissions"].map
      fun name => (ensureTable name, [table name])) ?_).perm (by decide +kernel)
    exact List.forall_mem_map.mpr fun name hname => settles_ensureTable (htables name hname)
  · refine (settles_steps [
      (ensureIndex "idx_user_roles_role_id" "user_roles" "role_id",
        [⟨"idx_user_roles_role_id", .index "user_roles"⟩]),
      (ensureIndex "idx_role_permissions_permission_id" "role_permissions" "permission_id",
        [⟨"idx_role_permissions_permission_id", .index "role_permissions"⟩])] ?_).perm
      (by decide +kernel)
    refine List.forall_mem_cons.mpr ⟨?_, List.forall_mem_singleton.mpr ?_⟩
    · exact settles_ensureIndex _ (by decide +kernel) (Layout.fold_of_mem (by decide))
    · exact settles_ensureIndex _ (by decide +kernel) (Layout.fold_of_mem (by decide))

theorem settles_down {m : Migration} (hm : m ∈ Layout.all) :
    down.Settles m.down (parts.filter (home · = m.version)) := by
  have htables : ∀ name ∈ ["role_permissions", "user_roles", "permissions", "roles"],
      name ∈ Layout.tables := by decide
  simp only [Layout.all, List.mem_cons, List.not_mem_nil, or_false] at hm
  rcases hm with rfl | rfl | rfl
  · refine (settles_steps [(dropTableIfAny "users", [table "users"])] ?_).perm (by decide +kernel)
    exact List.forall_mem_singleton.mpr (settles_drop (by decide))
  · refine (settles_steps (["role_permissions", "user_roles", "permissions", "roles"].map
      fun name => (dropTableIfAny name, [table name])) ?_).perm (by decide +kernel)
    exact List.forall_mem_map.mpr fun name hname => settles_drop (htables name hname)
  · refine (settles_steps [
      (dropIndex "idx_user_roles_role_id",
        [⟨"idx_user_roles_role_id", .index "user_roles"⟩]),
      (dropIndex "idx_role_permissions_permission_id",
        [⟨"idx_role_permissions_permission_id", .index "role_permissions"⟩])] ?_).perm
      (by decide +kernel)
    refine List.forall_mem_cons.mpr ⟨?_, List.forall_mem_singleton.mpr ?_⟩
    · exact settles_dropIndex (by decide +kernel)
    · exact settles_dropIndex (by decide +kernel)

theorem settles_body (w : Way) {m : Migration} (hm : m ∈ Layout.all) :
    w.Settles (w.body m) (parts.filter (home · = m.version)) := by
  cases w with
  | up second => exact settles_up hm
  | down => exact settles_down hm

theorem apart_body (w : Way) {m : Migration} (hm : m ∈ Layout.all) : (w.body m).Apart := by
  cases w with
  | up second => exact Layout.apart_up hm
  | down => exact Layout.apart_down hm

end Migration.Way

/-! ## Coherent databases -/

/-- An orderly database in which tables are there just if their migration is recorded, and indexes
only if theirs is. -/
structure IsCoherent (db : Database) : Prop extends IsOrderly db where
  owned {o : Object} (ho : o ∈ parts) (h : o ∈ db.schema.objects) : db.IsRecorded (home o)
  tables {o : Object} (ho : o ∈ parts) (htable : o.isTable = true) (h : db.IsRecorded (home o)) :
    o ∈ db.schema.objects
  listed {version : Int} (h : db.IsRecorded version) :
    version ∈ Layout.all.map Migration.version

section

open Migration (Way)

variable {db after : Database} {w : Way} {m : Migration}

theorem IsOrderly.withRecords (h : db.IsOrderly) (records : Std.ExtTreeMap Int Applied) :
    (db.withRecords records).IsOrderly where
  toIsFree := ⟨h.isOpen, h.unbarred⟩
  builtIn := h.builtIn
  vacant name hname habsent := by
    have hvacant := h.vacant name hname habsent
    rwa [← Rows.vacant_records db.rows records] at hvacant

theorem IsOrderly.hasRecords (h : db.IsOrderly) : db.HasRecords where
  isOpen := h.isOpen
  resolves := by
    have hrecords : records ∈ db.schema.objects := List.mem_of_mem_head? h.builtIn.headed
    have hfound := h.builtIn.find?_eq (Layout.mem_builtIn_iff.mpr (.inl rfl))
    rw [if_pos hrecords] at hfound
    exact Migration.resolveTable_eq_ok_iff.mpr
      (Schema.isFull_eq_true_iff.mpr ⟨records, hfound, rfl⟩)

theorem isRecorded_mark {version : Int} :
    (db.withRecords (w.mark db.rows.applied m)).IsRecorded version ↔
      if m.version = version then w.leaves = true else db.IsRecorded version := by
  simp only [IsRecorded, withRecords, Std.ExtTreeMap.mem_iff_contains, Way.contains_mark]
  split <;> rfl

theorem isRecorded_of_step (hm : m ∈ Layout.all)
    (hrun : StateT.run (w.step m) db = .ok ((), after)) (version : Int) :
    after.IsRecorded version ↔
      if m.version = version then w.leaves = true else db.IsRecorded version := by
  obtain ⟨made, -, -, rfl⟩ := Way.ok_of_step (Way.apart_body w hm) hrun
  exact isRecorded_mark

theorem mem_parts_of_home {o : Object} (ho : o ∈ parts) :
    o ∈ parts.filter (home · = m.version) ↔ m.version = home o := by
  rw [List.mem_filter, decide_eq_true_eq, and_iff_right ho, eq_comm]

/-- What a step makes of a part that only a change of its own migration can take away. -/
theorem IsOrderly.mem_of_step (h : db.IsOrderly) (hm : m ∈ Layout.all)
    (hrun : StateT.run (w.step m) db = .ok ((), after)) {o : Object} (ho : o ∈ parts)
    (hstays : w.leaves = true ∨ o.isTable = true) :
    o ∈ after.schema.objects ↔
      if m.version = home o then w.leaves = true else o ∈ db.schema.objects := by
  obtain ⟨made, hbody, -, rfl⟩ := Way.ok_of_step (Way.apart_body w hm) hrun
  obtain ⟨-, -, hsettled⟩ := Way.settles_body w hm db made h hbody
  have hmem := hsettled.mem_iff (Layout.ne_numbers_of_mem_parts ho) hstays
  simp only [mem_parts_of_home ho] at hmem
  exact hmem

theorem IsCoherent.step (h : db.IsCoherent) (hm : m ∈ Layout.all)
    (hrun : StateT.run (w.step m) db = .ok ((), after)) : after.IsCoherent := by
  have hrecorded := isRecorded_of_step hm hrun
  have hmem {o : Object} (ho : o ∈ parts) := h.mem_of_step hm hrun ho
  obtain ⟨made, hbody, -, rfl⟩ := Way.ok_of_step (Way.apart_body w hm) hrun
  obtain ⟨hmade, -, hsettled⟩ := Way.settles_body w hm db made h.toIsOrderly hbody
  refine ⟨hmade.withRecords _, fun {o} ho hthere => ?_, fun {o} ho htable hthere => ?_,
    fun {version} hversion => ?_⟩
  · rw [hrecorded]
    rcases hsettled.came (Layout.ne_numbers_of_mem_parts ho) hthere with ⟨hos, hleaves⟩ | ⟨hos, hdb⟩
    · rwa [if_pos ((mem_parts_of_home ho).mp hos)]
    · rw [if_neg (mt (mem_parts_of_home ho).mpr hos)]
      exact h.owned ho hdb
  · rw [hrecorded] at hthere
    refine (hmem ho (.inr htable)).mpr ?_
    split_ifs at hthere ⊢
    · exact hthere
    · exact h.tables ho htable hthere
  · rw [hrecorded] at hversion
    split at hversion
    · rename_i hsame
      exact hsame ▸ List.mem_map_of_mem hm
    · exact h.listed hversion

theorem IsCoherent.once (h : db.IsCoherent) (hm : m ∈ Layout.all)
    (hrun : StateT.run (w.once m) db = .ok ((), after)) : after.IsCoherent := by
  rw [Way.run_once h.hasRecords] at hrun
  split at hrun
  · exact h.step hm hrun
  · cases hrun
    exact h

theorem IsCoherent.run (h : db.IsCoherent) (w : Way) (count : Nat) :
    (w.run (Layout.all.take count) db).2.IsCoherent := by
  cases hchecked : Migration.checkVersions (Migration.versions (Layout.all.take count)) with
  | error e =>
    rw [Way.run_of_refused hchecked]
    exact h
  | ok _ =>
    rw [Way.run_of_checked hchecked]
    refine Way.runAll_induction (fun change hchange before after hbefore hrun => ?_) h
    obtain ⟨m, hm, rfl⟩ := List.mem_map.mp hchange
    exact hbefore.once (List.mem_of_mem_take (Way.mem_arrange.mp hm)) hrun

theorem IsCoherent.prepare (h : db.IsCoherent) : (Migration.prepare.run db).2 = db := by
  unfold Change.run
  split
  · rename_i after hrun
    obtain ⟨schema, hmade, rfl⟩ := ok_of_define (Change.run_eq_ok hrun)
    have hfound := h.builtIn.find?_eq (Layout.mem_builtIn_iff.mpr (.inl rfl))
    rw [if_pos (List.mem_of_mem_head? h.builtIn.headed)] at hfound
    rcases Schema.makes_of_createTable hmade with ⟨-, rfl⟩ | ⟨hnone, -⟩
    · rfl
    · cases hfound.symm.trans hnone
  · rfl

/-! ## Calls -/

/-- The tables in which a deed puts rows. -/
def Deed.fills : Deed → List String
  | created _ | updated _ _ _ => ["users"]
  | deleted _ => []
  | roleMade _ => ["roles"]
  | granted _ _ => ["permissions", "role_permissions"]
  | assigned _ _ => ["user_roles"]

/-- A deed puts no rows in any table but those it fills. -/
theorem vacant_of_effect {r rows : Rows} {deed : Deed} {name : String}
    (heffect : Effect r deed rows) (hother : name ∉ deed.fills) (h : r.Vacant name) :
    rows.Vacant name := by
  unfold Rows.Vacant at h ⊢
  cases heffect with
  | created | updated | roleMade | granted | grantedNew | assigned =>
    split <;> simp_all [Deed.fills]
  | deletedNobody => exact h
  | deleted id hnumber =>
    split
    · rw [h]
      exact Numbered.remove_of_none (by simp [Numbered.empty])
    all_goals simp_all

theorem there_of_update {α : Type} (hs : db.schema.IsBuiltIn) {name : String}
    (hname : name ∈ Layout.tables) {resolve : Schema → Except Fault Unit}
    (hresolve : resolve db.schema = .ok () → db.schema.requireTable name = .ok ())
    {body : Rows → Except Fault (α × Rows)} {f : Fault → Error} {answer : α}
    (hrun : StateT.run ((update resolve body).mapError f) db = .ok (answer, after)) :
    table name ∈ db.schema.objects := by
  have hrequired := hresolve (resolved_of_statement (Change.run_eq_ok hrun))
  unfold Schema.requireTable at hrequired
  rw [hs.table?_eq hname] at hrequired
  by_contra hmem
  rw [if_neg hmem] at hrequired
  cases hrequired

theorem requireTable_of_insert {s : Schema} {name column : String}
    (h : s.resolveInsert name column = .ok ()) : s.requireTable name = .ok () := by
  obtain ⟨_, hrequired, -⟩ := ok_of_bind h
  exact hrequired

theorem there_of_updateHash (hs : db.schema.IsBuiltIn) {id : UserId} {hash : String} {second : Int}
    {answer : Unit}
    (hrun : StateT.run (Accounts.updateHash id hash second) db = .ok (answer, after)) :
    table "users" ∈ db.schema.objects := by
  unfold Accounts.updateHash Accounts.rowOf? at hrun
  by_cases hnumber : id.value.toNat < Numbered.limit
  · simp only [if_pos hnumber] at hrun
    obtain ⟨_, middle, hput, -⟩ := ok_of_run_bind hrun
    refine there_of_update hs (by decide) (fun h => ?_) hput
    obtain ⟨_, hrequired, -⟩ := ok_of_bind h
    obtain ⟨_, hfirst, -⟩ := ok_of_bind hrequired
    exact hfirst
  · simp only [if_neg hnumber] at hrun
    cases hrun

theorem there_of_grant (hs : db.schema.IsBuiltIn) {role : RoleId} {code : String} {answer : Unit}
    (hrun : StateT.run (Accounts.grant role code) db = .ok (answer, after)) :
    table "permissions" ∈ db.schema.objects ∧ table "role_permissions" ∈ db.schema.objects := by
  unfold Accounts.grant at hrun
  obtain ⟨_, start, hrequired, hrest⟩ := ok_of_run_bind hrun
  obtain rfl := ok_of_run_lift hrequired
  obtain ⟨_, middle, hget, hrest⟩ := ok_of_run_bind hrest
  cases hget
  split at hrest
  · cases hrest
  obtain ⟨permission, middle, hensured, hlinked⟩ := ok_of_run_bind hrest
  refine ⟨there_of_update hs (by decide) requireTable_of_insert hensured, ?_⟩
  obtain ⟨rows, -, rfl⟩ := ok_of_update (Change.run_eq_ok hensured)
  have hmade : ({ db with rows } : Database).schema.IsBuiltIn := hs
  refine there_of_update hmade (by decide) (fun h => ?_) hlinked
  obtain ⟨_, hinsert, -⟩ := ok_of_bind h
  exact requireTable_of_insert hinsert

theorem there_of_assign (hs : db.schema.IsBuiltIn) {id : UserId} {role : RoleId} {answer : Unit}
    (hrun : StateT.run (Accounts.assign id role) db = .ok (answer, after)) :
    table "user_roles" ∈ db.schema.objects := by
  unfold Accounts.assign Accounts.rowOf? at hrun
  by_cases hnumber : id.value.toNat < Numbered.limit
  · simp only [if_pos hnumber] at hrun
    refine there_of_update hs (by decide) (fun h => ?_) hrun
    obtain ⟨_, hinsert, -⟩ := ok_of_bind h
    exact requireTable_of_insert hinsert
  · simp only [if_neg hnumber] at hrun
    cases hrun

/-- A deed needs the tables that it fills. -/
theorem there_of_change {c : Call} {deed : Deed} (hs : db.schema.IsBuiltIn)
    (hrun : StateT.run c.change db = .ok (deed, after)) {name : String}
    (hname : name ∈ deed.fills) : table name ∈ db.schema.objects := by
  cases c with
  | createUser u second =>
    obtain ⟨user, hcreated, rfl⟩ := ok_of_run_map hrun
    cases List.mem_singleton.mp hname
    exact there_of_update hs (by decide) requireTable_of_insert hcreated
  | updateHash id hash second =>
    obtain ⟨_, hupdated, rfl⟩ := ok_of_run_map hrun
    cases List.mem_singleton.mp hname
    exact there_of_updateHash hs hupdated
  | deleteUser id =>
    obtain ⟨_, -, rfl⟩ := ok_of_run_map hrun
    cases hname
  | createRole code fullAccess =>
    obtain ⟨_, hcreated, rfl⟩ := ok_of_run_map hrun
    cases List.mem_singleton.mp hname
    obtain ⟨_, middle, hrequired, hmade⟩ := ok_of_run_bind hcreated
    obtain rfl := ok_of_run_lift hrequired
    exact there_of_update hs (by decide) requireTable_of_insert hmade
  | grant role code =>
    obtain ⟨_, hgranted, rfl⟩ := ok_of_run_map hrun
    obtain ⟨hpermissions, hlinks⟩ := there_of_grant hs hgranted
    rcases List.mem_cons.mp hname with rfl | hname
    · exact hpermissions
    · cases List.mem_singleton.mp hname
      exact hlinks
  | assign id role =>
    obtain ⟨_, hassigned, rfl⟩ := ok_of_run_map hrun
    cases List.mem_singleton.mp hname
    exact there_of_assign hs hassigned

theorem applied_of_effect {r rows : Rows} {deed : Deed} (h : Effect r deed rows) :
    rows.applied = r.applied := by
  cases h <;> rfl

theorem IsCoherent.call (h : db.IsCoherent) (c : Call) : (c.change.run db).2.IsCoherent := by
  unfold Change.run
  split
  · rename_i deed after hrun
    obtain ⟨rows, heffect, rfl⟩ := effect_change hrun
    have hrecorded (version : Int) :
        IsRecorded { db with rows } version ↔ db.IsRecorded version := by
      rw [IsRecorded, applied_of_effect heffect]
      rfl
    refine ⟨⟨⟨h.isOpen, h.unbarred⟩, h.builtIn, fun name hname habsent => ?_⟩, fun ho hthere => ?_,
      fun ho htable hthere => ?_, fun hversion => ?_⟩
    · refine vacant_of_effect heffect (fun hfilled => ?_) (h.vacant name hname habsent)
      exact habsent (there_of_change h.builtIn hrun hfilled)
    · exact (hrecorded _).mpr (h.owned ho hthere)
    · exact h.tables ho htable ((hrecorded _).mp hthere)
    · exact h.listed ((hrecorded _).mp hversion)
  · exact h

end

end Gatehouse.Database
