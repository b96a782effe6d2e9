import Gatehouse.Proofs.Database.Coherence

/-! Going all the way. On a coherent database no built-in migration fails, up or down: a table is
there before anything refers to it, and it is dropped after all that refer to it. -/
namespace Gatehouse.Database

open Layout (parts table home)
open Migration (Way)

variable {db : Database}

/-! ## Statements that succeed -/

namespace IsOrderly

theorem exists_ensureTable (h : db.IsOrderly) {name : String} (hname : name ∈ Layout.tables) :
    ∃ after, StateT.run (ensureTable name) db = .ok ((), after) := by
  have hplain : ∀ name ∈ Layout.tables, Schema.isInternal name = false := by decide +kernel
  have hmade : ∃ schema, db.schema.createTable (.ifAny name) .full = .ok schema := by
    have hfound := h.builtIn.find?_eq (Layout.mem_builtIn_of_parts (Layout.table_mem_parts hname))
    change db.schema.find? name = _ at hfound
    by_cases hthere : table name ∈ db.schema.objects
    · rw [if_pos hthere] at hfound
      simp only [Schema.createTable, Mention.ifAny, hplain name hname, hfound]
      exact ⟨_, rfl⟩
    · rw [if_neg hthere] at hfound
      simp only [Schema.createTable, Mention.ifAny, hplain name hname, hfound]
      exact ⟨_, rfl⟩
  obtain ⟨schema, hschema⟩ := hmade
  exact ⟨_, run_define h.toIsFree hschema⟩

theorem exists_ensureIndex (h : db.IsOrderly) {name target : String} (column : String)
    (ho : ⟨name, .index target⟩ ∈ parts) (htarget : target ∈ Layout.tables)
    (hthere : table target ∈ db.schema.objects) :
    ∃ after, StateT.run (ensureIndex name target column) db = .ok ((), after) := by
  have hmade : ∃ schema, db.schema.ensureIndex name target column = .ok schema := by
    have hfound := h.builtIn.find?_eq (Layout.mem_builtIn_of_parts ho)
    change db.schema.find? name = _ at hfound
    unfold Schema.ensureIndex
    rw [h.builtIn.table?_eq htarget, if_pos hthere, hfound]
    by_cases hindex : ⟨name, .index target⟩ ∈ db.schema.objects
    · rw [if_pos hindex]
      exact ⟨_, rfl⟩
    · rw [if_neg hindex]
      exact ⟨_, rfl⟩
  obtain ⟨schema, hschema⟩ := hmade
  exact ⟨_, run_define h.toIsFree hschema⟩

theorem children_eq_nil (h : db.IsOrderly) {name : String} (hname : name ∈ Layout.tables)
    (hchildren : ∀ child ∈ Layout.tables, name ∈ Schema.parents child →
      table child ∉ db.schema.objects) : db.schema.children name = [] := by
  have hchild : ∀ o ∈ Layout.builtIn, Schema.parents o.name ≠ [] → o.name ∈ Layout.tables := by
    decide +kernel
  rw [Schema.children, List.map_eq_nil_iff, List.filter_eq_nil_iff]
  intro o ho hrefers
  rw [List.mem_reverse] at ho
  rw [Layout.fold_of_mem hname, Bool.and_eq_true, decide_eq_true_eq,
    List.contains_iff_mem] at hrefers
  obtain ⟨hfull, hparent⟩ := hrefers
  have htable : o = table o.name := by rw [table, ← hfull]
  refine hchildren o.name (hchild o (h.builtIn.subset ho) ?_) hparent (htable ▸ ho)
  exact List.ne_nil_of_mem hparent

/-- A table to which no other refers can be dropped, whatever its rows are. -/
theorem exists_drop (h : db.IsOrderly) {name : String} (hname : name ∈ Layout.tables)
    (hchildren : ∀ child ∈ Layout.tables, name ∈ Schema.parents child →
      table child ∉ db.schema.objects) :
    ∃ after, StateT.run (dropTableIfAny name) db = .ok ((), after) := by
  have hdrop : db.schema.resolveDrop name = .ok () := by
    rw [Schema.resolveDrop, Schema.resolveLoss, h.children_eq_nil hname hchildren]
    split <;> rfl
  unfold dropTableIfAny drop
  rw [run_statement h.isOpen rfl]
  change ∃ after, (db.schema.findToDrop (.ifAny name) >>= _) = Except.ok ((), after)
  rw [h.builtIn.findToDrop_eq hname]
  split
  · change ∃ after, (db.schema.resolveDrop name >>= fun _ => unlessBarred db _) = Except.ok _
    rw [hdrop, unlessBarred, h.unbarred]
    exact ⟨_, rfl⟩
  · exact ⟨_, rfl⟩

end IsOrderly

/-! ## Statements one after another -/

/-- Statements succeed one after another if each does, wherever the others may have led. -/
theorem exists_steps {I : Database → Prop} {changes : List (Change Fault Unit)}
    (h : ∀ c ∈ changes, ∀ db, I db → ∃ after, StateT.run c db = .ok ((), after) ∧ I after)
    (hdb : I db) : ∃ after, StateT.run (Layout.steps changes) db = .ok ((), after) := by
  induction changes generalizing db with
  | nil => exact ⟨db, rfl⟩
  | cons c rest ih =>
    obtain ⟨hfirst, hrest⟩ := List.forall_mem_cons.mp h
    obtain ⟨middle, hrun, hmiddle⟩ := hfirst db hdb
    obtain ⟨after, hsteps⟩ := ih hrest hmiddle
    exact ⟨after, (run_bind (run_mapError hrun)).trans hsteps⟩

theorem exists_ensureTables (hdb : db.IsOrderly) {names : List String}
    (hnames : ∀ name ∈ names, name ∈ Layout.tables) :
    ∃ after, StateT.run (Layout.steps (names.map ensureTable)) db = .ok ((), after) := by
  refine exists_steps (I := IsOrderly) (fun c hc db hdb => ?_) hdb
  obtain ⟨name, hname, rfl⟩ := List.mem_map.mp hc
  have hsettles : (Way.up 0).Settles (ensureTable name) [table name] :=
    Way.settles_ensureTable (hnames name hname)
  obtain ⟨after, hrun⟩ := hdb.exists_ensureTable (hnames name hname)
  exact ⟨after, hrun, (hsettles db after hdb hrun).1⟩

/-- An orderly database with the tables that are indexed. -/
structure IsIndexable (db : Database) : Prop extends IsOrderly db where
  indexed (name : String) (h : name ∈ ["user_roles", "role_permissions"]) :
    table name ∈ db.schema.objects

theorem IsIndexable.exists_ensureIndex (h : db.IsIndexable) {name target : String}
    (column : String) (ho : ⟨name, .index target⟩ ∈ parts)
    (htarget : target ∈ ["user_roles", "role_permissions"]) :
    ∃ after, StateT.run (ensureIndex name target column) db = .ok ((), after) ∧
      after.IsIndexable := by
  have htables : ∀ name ∈ ["user_roles", "role_permissions"], name ∈ Layout.tables := by decide
  have htable := htables target htarget
  have hsettles : (Way.up 0).Settles (ensureIndex name target column) [⟨name, .index target⟩] :=
    Way.settles_ensureIndex column ho (Layout.fold_of_mem htable)
  obtain ⟨after, hrun⟩ :=
    h.toIsOrderly.exists_ensureIndex column ho htable (h.indexed target htarget)
  obtain ⟨hafter, -, hsettled⟩ := hsettles db after h.toIsOrderly hrun
  refine ⟨after, hrun, hafter, fun other hother => ?_⟩
  refine (hsettled.mem_iff (Layout.table_ne_numbers other) (.inl rfl)).mpr ?_
  split
  · rfl
  · exact h.indexed other hother

theorem exists_ensureIndexes (hdb : db.IsIndexable) :
    ∃ after, StateT.run Layout.indexes.up db = .ok ((), after) := by
  refine exists_steps (List.forall_mem_cons.mpr ⟨?_, List.forall_mem_singleton.mpr ?_⟩) hdb
  · exact fun _ h => h.exists_ensureIndex _ (by decide +kernel) (by decide)
  · exact fun _ h => h.exists_ensureIndex _ (by decide +kernel) (by decide)

/-- Whether tables can be dropped in turn once some are gone, since all that refers to one of them
is gone by then. -/
def canDrop (gone : List String) : List String → Bool
  | [] => true
  | name :: rest =>
    decide (∀ child ∈ Layout.tables, name ∈ Schema.parents child → child ∈ gone) &&
      canDrop (name :: gone) rest

theorem exists_drops (gone : List String) {names : List String}
    (hnames : ∀ name ∈ names, name ∈ Layout.tables) (hdrop : canDrop gone names = true)
    (hdb : db.IsOrderly)
    (hgone : ∀ name ∈ gone, table name ∉ db.schema.objects) :
    ∃ after, StateT.run (Layout.steps (names.map dropTableIfAny)) db = .ok ((), after) := by
  induction names generalizing db gone with
  | nil => exact ⟨db, rfl⟩
  | cons name rest ih =>
    obtain ⟨hname, hrest⟩ := List.forall_mem_cons.mp hnames
    rw [canDrop, Bool.and_eq_true, decide_eq_true_eq] at hdrop
    obtain ⟨middle, hrun⟩ := hdb.exists_drop hname fun child hchild hparent =>
      hgone child (hdrop.1 child hchild hparent)
    obtain ⟨hmiddle, -, hsettled⟩ := Way.settles_drop hname db middle hdb hrun
    have hgone : ∀ other ∈ name :: gone, table other ∉ middle.schema.objects := by
      intro other hother hmem
      rcases hsettled.came (Layout.table_ne_numbers other) hmem with ⟨-, hleaves⟩ | ⟨hne, hmem⟩
      · cases hleaves
      rcases List.mem_cons.mp hother with rfl | hother
      · exact hne List.mem_cons_self
      · exact hgone other hother hmem
    obtain ⟨after, hsteps⟩ := ih (name :: gone) hrest hdrop.2 hmiddle hgone
    exact ⟨after, (run_bind (run_mapError hrun)).trans hsteps⟩

theorem exists_dropIndexes (hdb : db.IsOrderly) :
    ∃ after, StateT.run Layout.indexes.down db = .ok ((), after) := by
  have hdrop (name target : String) (ho : ⟨name, .index target⟩ ∈ parts) (db : Database)
      (hdb : db.IsOrderly) :
      ∃ after, StateT.run (dropIndex name) db = .ok ((), after) ∧ after.IsOrderly := by
    have hrun : StateT.run (dropIndex name) db = _ := run_define hdb.toIsFree rfl
    exact ⟨_, hrun, (Way.settles_dropIndex ho db _ hdb hrun).1⟩
  refine exists_steps (I := IsOrderly)
    (List.forall_mem_cons.mpr ⟨?_, List.forall_mem_singleton.mpr ?_⟩) hdb
  · exact hdrop _ "user_roles" (by decide +kernel)
  · exact hdrop _ "role_permissions" (by decide +kernel)

/-! ## The built-in migrations -/

variable {w : Way} {m : Migration}

/-- A built-in migration does what it does once those before it on the way have done it. -/
theorem IsCoherent.exists_body (h : db.IsCoherent) (hm : m ∈ Layout.all)
    (hbefore : ∀ other ∈ Layout.all, w.precedes other.version m.version = true →
      (db.IsRecorded other.version ↔ w.leaves = true)) :
    ∃ made, StateT.run (w.body m) db = .ok ((), made) := by
  have hhome : ∀ name ∈ ["user_roles", "role_permissions"],
      table name ∈ parts ∧ home (table name) = Layout.access.version := by decide +kernel
  simp only [Layout.all, List.mem_cons, List.not_mem_nil, or_false] at hm
  cases w with
  | up second =>
    rcases hm with rfl | rfl | rfl
    · exact exists_ensureTables h.toIsOrderly (List.forall_mem_singleton.mpr (by decide))
    · exact exists_ensureTables h.toIsOrderly (by decide)
    · refine exists_ensureIndexes ⟨h.toIsOrderly, fun name hname => ?_⟩
      obtain ⟨hpart, hversion⟩ := hhome name hname
      refine h.tables hpart rfl ?_
      rw [hversion]
      exact (hbefore Layout.access (by simp [Layout.all]) rfl).mpr rfl
  | down =>
    rcases hm with rfl | rfl | rfl
    · refine exists_drops ["user_roles"] (List.forall_mem_singleton.mpr (by decide))
        (by decide +kernel) h.toIsOrderly (List.forall_mem_singleton.mpr fun hthere => ?_)
      obtain ⟨hpart, hversion⟩ := hhome "user_roles" List.mem_cons_self
      have hrecorded := h.owned hpart hthere
      rw [hversion, hbefore Layout.access (by simp [Layout.all]) rfl] at hrecorded
      cases hrecorded
    · exact exists_drops [] (by decide) (by decide +kernel) h.toIsOrderly
        (List.forall_mem_nil _)
    · exact exists_dropIndexes h.toIsOrderly

theorem IsCoherent.exists_once (h : db.IsCoherent) (hm : m ∈ Layout.all)
    (hbefore : ∀ other ∈ Layout.all, w.precedes other.version m.version = true →
      (db.IsRecorded other.version ↔ w.leaves = true)) :
    ∃ after, StateT.run (w.once m) db = .ok ((), after) ∧ after.IsCoherent ∧
      ∀ version, after.IsRecorded version ↔
        if m.version = version then w.leaves = true else db.IsRecorded version := by
  rw [Way.run_once h.hasRecords]
  by_cases hdue : w.isDue db.rows.applied m = true
  · rw [if_pos hdue]
    obtain ⟨made, hbody⟩ := h.exists_body hm hbefore
    have hmade := (Way.settles_body w hm db made h.toIsOrderly hbody).1
    have hstep := Way.run_step (Way.apart_body w hm) hbody
      (Way.recordable_eq_ok_iff.mpr ⟨hmade.hasRecords, hmade.unbarred⟩)
    exact ⟨_, hstep, h.step hm hstep, isRecorded_of_step hm hstep⟩
  · rw [if_neg hdue]
    refine ⟨db, rfl, h, fun version => ?_⟩
    split
    · rename_i hversion
      simp only [Way.isDue, bne_iff_ne, ne_eq, not_not] at hdue
      rw [← hversion, IsRecorded, Std.ExtTreeMap.mem_iff_contains, hdue]
    · rfl

theorem IsCoherent.exists_runAll (done : List Migration) {rest : List Migration}
    (hall : w.arrange Layout.all = done ++ rest) (h : db.IsCoherent)
    (hdone : ∀ m ∈ done, (db.IsRecorded m.version ↔ w.leaves = true)) :
    ∃ after, Migration.runAll (rest.map w.once) db = (.ok (), after) ∧
      ∀ m ∈ Layout.all, (after.IsRecorded m.version ↔ w.leaves = true) := by
  induction rest generalizing db done with
  | nil =>
    refine ⟨db, rfl, fun m hm => hdone m ?_⟩
    rwa [← Way.mem_arrange, hall, List.append_nil] at hm
  | cons m rest ih =>
    have hm : m ∈ Layout.all := Way.mem_arrange.mp (hall ▸ List.mem_append_right done (.head rest))
    have hbefore : ∀ other ∈ Layout.all, w.precedes other.version m.version = true →
        (db.IsRecorded other.version ↔ w.leaves = true) := by
      intro other hother hless
      have hordered := Way.pairwise_arrange (w := w)
        (Migration.ascending_of_checkVersions Layout.checkVersions_all)
      rw [hall] at hordered
      apply hdone other
      rw [← Way.filter_precedes hordered, List.mem_filter, ← hall]
      exact ⟨Way.mem_arrange.mpr hother, hless⟩
    obtain ⟨middle, hrun, hmiddle, hrecorded⟩ := h.exists_once hm hbefore
    have hsettled : ∀ other ∈ done ++ [m],
        (middle.IsRecorded other.version ↔ w.leaves = true) := by
      intro other hother
      rw [hrecorded]
      split
      · rfl
      · rename_i hne
        rcases List.mem_append.mp hother with hother | hother
        · exact hdone other hother
        · exact absurd (congrArg _ (List.mem_singleton.mp hother).symm) hne
    obtain ⟨after, hafter, hend⟩ := ih (done ++ [m]) (by simp [hall]) hmiddle hsettled
    refine ⟨after, ?_, hend⟩
    rw [List.map_cons, Way.runAll_cons, hrun]
    exact hafter

/-- The built-in migrations go all the way up, and all the way down. -/
theorem IsCoherent.exists_run (h : db.IsCoherent) (w : Way) :
    ∃ after, w.run Layout.all db = (.ok (), after) ∧ after.IsCoherent ∧
      ∀ version, after.IsRecorded version ↔
        w.leaves = true ∧ version ∈ Layout.all.map Migration.version := by
  obtain ⟨after, hrun, hsettled⟩ :=
    h.exists_runAll [] (List.nil_append (w.arrange Layout.all)).symm (List.forall_mem_nil _)
  have hwhole : w.run Layout.all db = (.ok (), after) :=
    (Way.run_of_checked Layout.checkVersions_all db).trans hrun
  have hafter : after.IsCoherent := by
    have hcoherent := h.run w Layout.all.length
    rwa [List.take_length, hwhole] at hcoherent
  refine ⟨after, hwhole, hafter, fun version => ⟨fun hversion => ?_, fun hversion => ?_⟩⟩
  · obtain ⟨m, hm, rfl⟩ := List.mem_map.mp (hafter.listed hversion)
    exact ⟨(hsettled m hm).mp hversion, List.mem_map_of_mem hm⟩
  · obtain ⟨m, hm, rfl⟩ := List.mem_map.mp hversion.2
    exact (hsettled m hm).mpr hversion.1

end Gatehouse.Database
