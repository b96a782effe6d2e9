import Gatehouse.Proofs.Database.Completion
import Gatehouse.Proofs.Database.Likeness
import Gatehouse.Proofs.Database.Upgrade

/-! Going down. The versions that are recorded are reverted in descending order, each as a whole
with its record, until one fails. The built-in migrations can be reverted whatever has been done
with them and with the directory, and once they are applied again, the directory is like a new one.
-/
namespace Gatehouse.Database

open Layout (parts table home)

/-! ## What is reverted -/

namespace Migration

variable {version : Int} {ms done : List Migration} {db after : Database} {w : Way}

/-- The migrations that are recorded, the last one first. -/
def reverting (db : Database) (ms : List Migration) : List Migration :=
  (ms.filter fun m => db.rows.applied.contains m.version).reverse

/-- The migrations above a version. -/
def above (version : Int) (ms : List Migration) : List Migration :=
  ms.filter fun m => version < m.version

theorem due_down (db : Database) (ms : List Migration) :
    Way.down.due db ms = reverting db ms := by
  unfold Way.due Way.isDue Way.arrange Way.leaves reverting
  simp [List.filter_reverse]

theorem mem_reverting {m : Migration} :
    m ∈ reverting db ms ↔ m ∈ ms ∧ db.IsRecorded m.version := by
  rw [reverting, List.mem_reverse, List.mem_filter, IsRecorded, Std.ExtTreeMap.mem_iff_contains]

theorem isRecorded_of_carried_reverting (h : Way.down.Carried (reverting db ms) db after) :
    after.IsRecorded version ↔
      db.IsRecorded version ∧ version ∉ ms.map Migration.version := by
  rw [Way.isRecorded_of_carried_down h]
  refine and_congr_right fun hrecorded => not_congr ?_
  rw [List.mem_map, List.mem_map]
  constructor
  · rintro ⟨m, hm, rfl⟩
    exact ⟨m, (mem_reverting.mp hm).1, rfl⟩
  · rintro ⟨m, hm, rfl⟩
    exact ⟨m, mem_reverting.mpr ⟨hm, hrecorded⟩, rfl⟩

theorem isRecorded_of_carried_above {least : Int}
    (h : Way.down.Carried (above least (reverting db ms)) db after) :
    after.IsRecorded version ↔
      db.IsRecorded version ∧ (version ∈ ms.map Migration.version → version ≤ least) := by
  rw [Way.isRecorded_of_carried_down h]
  refine and_congr_right fun hrecorded => ?_
  have hdone : version ∈ (above least (reverting db ms)).map Migration.version ↔
      version ∈ ms.map Migration.version ∧ least < version := by
    simp only [above, List.mem_map, List.mem_filter, decide_eq_true_eq, mem_reverting]
    constructor
    · rintro ⟨m, ⟨⟨hm, -⟩, hless⟩, rfl⟩
      exact ⟨⟨m, hm, rfl⟩, hless⟩
    · rintro ⟨⟨m, hm, rfl⟩, hless⟩
      exact ⟨m, ⟨⟨hm, hrecorded⟩, hless⟩, rfl⟩
  rw [hdone, not_and, Int.not_lt]

/-- The records of versions that a run has nothing to do with stay as they are. -/
theorem Way.getElem?_of_carried (h : w.Carried done db after)
    (hother : ∀ m ∈ done, m.version ≠ version) :
    after.rows.applied[version]? = db.rows.applied[version]? := by
  obtain ⟨made, -, rfl⟩ := h
  change (done.foldl w.mark db.rows.applied)[version]? = _
  generalize db.rows.applied = records
  induction done generalizing records with
  | nil => rfl
  | cons m done ih =>
    obtain ⟨hm, hrest⟩ := List.forall_mem_cons.mp hother
    rw [List.foldl_cons, ih hrest]
    cases w with
    | up second => simp [mark, Std.ExtTreeMap.getElem?_insert, hm]
    | down => simp [mark, Std.ExtTreeMap.getElem?_erase, hm]

end Migration

/-! ## Up from nothing -/

open Migration (Way)

section

variable {db after : Database}

theorem IsCoherent.not_mem (h : db.IsCoherent) (hnone : ∀ version, ¬db.IsRecorded version)
    {o : Object} (ho : o ∈ parts) : o ∉ db.schema.objects :=
  fun hthere => hnone (home o) (h.owned ho hthere)

theorem IsCoherent.rows_eq_empty (h : db.IsCoherent) (hnone : ∀ version, ¬db.IsRecorded version) :
    db.rows = .empty := by
  have hvacant (name : String) (hname : name ∈ Layout.tables) : db.rows.Vacant name :=
    h.vacant name hname (h.not_mem hnone (Layout.table_mem_parts hname))
  have happlied : db.rows.applied = ∅ :=
    Std.ExtTreeMap.eq_empty_iff_forall_not_mem.mpr hnone
  have husers : db.rows.users = .empty := hvacant "users" (by decide)
  have hroles : db.rows.roles = .empty := hvacant "roles" (by decide)
  have hpermissions : db.rows.permissions = .empty := hvacant "permissions" (by decide)
  have hassigned : db.rows.userRoles = [] := hvacant "user_roles" (by decide)
  have hgranted : db.rows.rolePermissions = [] := hvacant "role_permissions" (by decide)
  obtain ⟨schema, ⟨users, roles, permissions, userRoles, rolePermissions, applied⟩, _, _⟩ := db
  dsimp only at husers hroles hpermissions hassigned hgranted happlied ⊢
  rw [husers, hroles, hpermissions, hassigned, hgranted, happlied]
  rfl

/-- Steps up leave all parts of their migrations, and those that were there. -/
theorem IsCoherent.mem_of_steps {second : Int} {done : List Migration}
    (hdone : ∀ m ∈ done, m ∈ Layout.all) (h : db.IsCoherent)
    (hrun : StateT.run (done.forM (Way.up second).step) db = .ok ((), after)) {o : Object}
    (ho : o ∈ parts) (hthere : home o ∈ done.map Migration.version ∨ o ∈ db.schema.objects) :
    o ∈ after.schema.objects := by
  induction done generalizing db with
  | nil =>
    cases hrun
    exact hthere.resolve_left List.not_mem_nil
  | cons m done ih =>
    obtain ⟨hm, hrest⟩ := List.forall_mem_cons.mp hdone
    obtain ⟨_, middle, hfirst, hsteps⟩ := ok_of_run_bind hrun
    refine ih hrest (h.step hm hfirst) hsteps ?_
    rw [h.mem_of_step hm hfirst ho (.inl rfl)]
    by_cases hhome : m.version = home o
    · rw [if_pos hhome]
      exact .inr rfl
    · rw [if_neg hhome]
      rw [List.map_cons, List.mem_cons] at hthere
      exact hthere.imp_left (·.resolve_left (Ne.symm hhome))

/-- Going all the way up from nothing brings about all parts, and no rows but the records. -/
theorem IsCoherent.exists_renewed (h : db.IsCoherent) (hnone : ∀ version, ¬db.IsRecorded version)
    (second : Int) :
    ∃ after, Migration.upAll second Layout.all db = (.ok (), after) ∧ after.IsCoherent ∧
      (∀ o ∈ parts, o ∈ after.schema.objects) ∧
      after.rows = (Layout.recorded Layout.allObjects second Layout.all).rows := by
  have hhome : ∀ o ∈ parts, home o ∈ Layout.all.map Migration.version := by decide +kernel
  have hup : ∀ m ∈ Layout.all, m.up.Apart := fun m hm => Layout.apart_up hm
  obtain ⟨after, hrun, hafter, -⟩ := h.exists_run (.up second)
  have hsteps := Migration.steps_of_upAll hup h.hasRecords hrun
  have hpending : Migration.pending db Layout.all = Layout.all := by
    refine List.filter_eq_self.mpr fun m _ => ?_
    rw [Bool.not_eq_true', ← Bool.not_eq_true, ← Std.ExtTreeMap.mem_iff_contains]
    exact hnone m.version
  rw [hpending] at hsteps
  refine ⟨after, hrun, hafter, fun o ho => ?_, ?_⟩
  · exact h.mem_of_steps (fun _ hm => hm) hsteps ho (.inl (hhome o ho))
  · obtain ⟨made, hmade, rfl⟩ := Way.carried_of_steps (w := .up second) hup hsteps
    have hrows : made.rows = db.rows :=
      Change.keeps_forM (P := (· = db.rows)) (fun m hm => Layout.keeps_up hm) db () made hmade rfl
    unfold withRecords
    rw [hrows, h.rows_eq_empty hnone]
    rfl

/-- A coherent database with all parts serves calls. -/
theorem IsCoherent.serves (h : db.IsCoherent) (hparts : ∀ o ∈ parts, o ∈ db.schema.objects) :
    db.Serves where
  toIsFree := h.toIsFree
  has name hname := by
    have hpart := Layout.table_mem_parts hname
    have hfound := h.builtIn.find?_eq (Layout.mem_builtIn_of_parts hpart)
    rwa [if_pos (hparts _ hpart)] at hfound

end

/-! ## Errands -/

/-- What can be asked of a database: going up or down by the first so many built-in migrations,
calls and look-ups. -/
inductive Errand where
  | prepare
  | up (second : Int) (count : Nat)
  | down (count : Nat)
  | call (c : Call)
  | findByUsername (username : String)
  | findById (id : UserId)
  | findAccess (id : UserId)

/-- The database after an errand, whether it has succeeded or not. -/
def Errand.perform (db : Database) : Errand → Database
  | prepare => (Migration.prepare.run db).2
  | up second count => (Migration.upAll second (Layout.all.take count) db).2
  | down count => (Migration.downAll (Layout.all.take count) db).2
  | call c => (c.change.run db).2
  | findByUsername username => ((Accounts.findByUsername username).run db).2
  | findById id => ((Accounts.findById id).run db).2
  | findAccess id => ((Accounts.findAccess id).run db).2

theorem IsCoherent.perform {db : Database} (h : db.IsCoherent) (errand : Errand) :
    (errand.perform db).IsCoherent := by
  cases errand with
  | prepare =>
    rw [Errand.perform, h.prepare]
    exact h
  | up second count => exact h.run (.up second) count
  | down count => exact h.run .down count
  | call c => exact h.call c
  | findByUsername username =>
    rw [Errand.perform, (looks_findByUsername username).run]
    exact h
  | findById id =>
    rw [Errand.perform, (looks_findById id).run]
    exact h
  | findAccess id =>
    rw [Errand.perform, (looks_findAccess id).run]
    exact h

theorem isCoherent_prepared : (Migration.prepare.run .empty).2.IsCoherent := by
  have hparts : ∀ o ∈ parts, o ∉ (Layout.recording []).objects := by decide +kernel
  have hnone (version : Int) : ¬(Layout.recorded [] 0 []).IsRecorded version :=
    Std.ExtTreeMap.not_mem_empty
  rw [Layout.run_prepare]
  refine ⟨⟨⟨rfl, rfl⟩, ⟨rfl, List.pairwise_singleton _ _, by decide +kernel⟩, fun _ hname _ => ?_⟩,
    fun ho hthere => absurd hthere (hparts _ ho), fun _ _ h => absurd h (hnone _),
    fun h => absurd h (hnone _)⟩
  simp only [Layout.tables, List.mem_cons, List.not_mem_nil, or_false] at hname
  rcases hname with rfl | rfl | rfl | rfl | rfl <;> rfl

theorem isCoherent_performed (errands : List Errand) :
    (errands.foldl Errand.perform (Migration.prepare.run .empty).2).IsCoherent := by
  have hfold (db : Database) (h : db.IsCoherent) :
      (errands.foldl Errand.perform db).IsCoherent := by
    induction errands generalizing db with
    | nil => exact h
    | cons errand errands ih => exact ih _ (h.perform errand)
  exact hfold _ isCoherent_prepared

/-! ## All that going down can come to -/

/-- Whatever is asked of it from now on, the database does as one that has just been laid out. -/
def IsLikeNew (db : Database) (second : Int) : Prop :=
  ∀ calls : List Call,
    let h := (History.mk [] db).after calls
    let k := (History.start second).after calls
    h.deeds = k.deeds ∧ h.database.directory = k.database.directory ∧
      ∀ c : Call, (c.change.run h.database).1 = (c.change.run k.database).1

theorem isLikeNew_of_serves {db : Database} {second : Int} (h : db.Serves)
    (hrows : db.rows = (Layout.recorded Layout.allObjects second Layout.all).rows) :
    db.IsLikeNew second := by
  intro calls
  have hstart : (History.start second).database.rows = db.rows := by
    rw [History.start, Layout.migrate_empty, hrows]
  have hsound : Sound db.rows := by
    rw [hrows]
    exact sound_empty.withRecords _
  obtain ⟨hdeeds, halike⟩ := Alike.after (h := ⟨[], db⟩) (k := History.start second) rfl
    ⟨h, (History.isLaid_start second).serves, hstart, hsound⟩ calls
  exact ⟨hdeeds, halike.directory_eq, fun c => (halike.run c).1⟩

namespace Migration

/-- Of a list that is accepted the recorded versions are reverted in descending order; or one fails,
which leaves those above it reverted and no more than those recorded. The built-in migrations are
all reverted, whatever has been done with them and with the directory, and then they can be applied
once more, which makes a directory that does as a new one. -/
theorem downAll_outcome :
    (∀ (ms : List Migration) (db : Database), (∀ m ∈ ms, m.down.Apart) → db.HasRecords →
      checkVersions (versions ms) = .ok () →
      (reverting db ms).Pairwise (fun m later => later.version < m.version) ∧
      ∃ outcome after, downAll ms db = (outcome, after) ∧
        (∀ version, version ∉ ms.map Migration.version →
          after.rows.applied[version]? = db.rows.applied[version]?) ∧
        match outcome with
        | .ok () => Way.down.Carried (reverting db ms) db after ∧
          ∀ version, after.IsRecorded version ↔
            db.IsRecorded version ∧ version ∉ ms.map Migration.version
        | .error e => ∃ m ∈ reverting db ms,
          Way.down.Carried (above m.version (reverting db ms)) db after ∧
          (∀ version, after.IsRecorded version ↔ db.IsRecorded version ∧
            (version ∈ ms.map Migration.version → version ≤ m.version)) ∧
          StateT.run (Way.down.step m) after = .error e) ∧
    (∀ errands : List Errand,
      let db := errands.foldl Errand.perform (prepare.run .empty).2
      ∃ emptied, downAll Layout.all db = (.ok (), emptied) ∧
        (∀ version, ¬emptied.IsRecorded version) ∧
        (∀ o ∈ parts, emptied.schema.find? o.name = none) ∧
        ∀ second, ∃ renewed, upAll second Layout.all emptied = (.ok (), renewed) ∧
          (∀ o ∈ parts, renewed.schema.find? o.name = some o) ∧
          renewed.rows = { Rows.empty with applied := renewed.rows.applied } ∧
          renewed.IsLikeNew second) := by
  constructor
  · intro ms db hms hdb hchecked
    have hkept {done : List Migration} {after : Database} (hdone : done ⊆ reverting db ms)
        (hcarried : Way.down.Carried done db after) (version : Int)
        (hversion : version ∉ ms.map Migration.version) :
        after.rows.applied[version]? = db.rows.applied[version]? := by
      refine Way.getElem?_of_carried hcarried fun m hm hsame => hversion ?_
      exact hsame ▸ List.mem_map_of_mem (mem_reverting.mp (hdone hm)).1
    have hordered := Way.pairwise_due (w := .down) (ascending_of_checkVersions hchecked) db
    obtain ⟨outcome, after, hrun, hend⟩ := Way.exists_run (w := .down) hms hdb hchecked
    rw [due_down] at hordered hend
    refine ⟨hordered.imp of_decide_eq_true, outcome, after, hrun, ?_⟩
    cases outcome with
    | ok _ =>
      exact ⟨hkept (List.Subset.refl _) hend, hend,
        fun version => isRecorded_of_carried_reverting hend⟩
    | error e =>
      obtain ⟨m, hm, -, hcarried, hfailed⟩ := hend
      exact ⟨hkept List.filter_sublist.subset hcarried, m, hm, hcarried,
        fun version => isRecorded_of_carried_above hcarried, hfailed⟩
  · intro errands db
    have hdb : db.IsCoherent := isCoherent_performed errands
    obtain ⟨emptied, hdown, hemptied, hrecorded⟩ := hdb.exists_run .down
    have hnone (version : Int) : ¬emptied.IsRecorded version := by
      rw [hrecorded]
      exact fun h => nomatch h.1
    refine ⟨emptied, hdown, hnone, fun o ho => ?_, fun second => ?_⟩
    · rw [hemptied.builtIn.find?_eq (Layout.mem_builtIn_of_parts ho),
        if_neg (hemptied.not_mem hnone ho)]
    · obtain ⟨renewed, hup, hrenewed, hparts, hrows⟩ := hemptied.exists_renewed hnone second
      refine ⟨renewed, hup, fun o ho => ?_, ?_, isLikeNew_of_serves (hrenewed.serves hparts) hrows⟩
      · rw [hrenewed.builtIn.find?_eq (Layout.mem_builtIn_of_parts ho), if_pos (hparts o ho)]
      · rw [hrows]
        rfl

/-- A migration that cannot be reverted. -/
def stuck : Migration := ⟨1, "Stuck", pure (), throw (.failed "stuck")⟩

/-- The indexes are reverted, and the migration below them stays recorded. -/
theorem downAll_stuck :
    ∃ after, downAll [stuck, Layout.indexes] (Layout.recorded [] 0 [stuck, Layout.indexes]) =
        (.error (.failed "stuck"), after) ∧
      ∀ version, after.IsRecorded version ↔ version = 1 := by
  have hms : ∀ m ∈ [stuck, Layout.indexes], m.down.Apart :=
    List.forall_mem_cons.mpr ⟨Change.apart_throw _,
      List.forall_mem_singleton.mpr (Layout.apart_down (by simp [Layout.all]))⟩
  have hchecked : checkVersions (versions [stuck, Layout.indexes]) = .ok () := by decide +kernel
  have horderly : (Layout.recorded [] 0 [stuck, Layout.indexes]).IsOrderly := by
    have hprepared := isCoherent_prepared.toIsOrderly
    rw [Layout.run_prepare] at hprepared
    exact hprepared.withRecords _
  have hrecorded (version : Int) :
      (Layout.recorded [] 0 [stuck, Layout.indexes]).IsRecorded version ↔
        version = 1 ∨ version = 3 := by
    simp [IsRecorded, Layout.recorded, stuck, Layout.indexes]
    omega
  generalize hdb : Layout.recorded [] 0 [stuck, Layout.indexes] = db at horderly hrecorded ⊢
  have hreverting : reverting db [stuck, Layout.indexes] = [Layout.indexes, stuck] := by
    refine congrArg List.reverse (List.filter_eq_self.mpr (List.forall_mem_cons.mpr ⟨?_, ?_⟩))
    · exact (hrecorded 1).mpr (.inl rfl)
    · exact List.forall_mem_singleton.mpr ((hrecorded 3).mpr (.inr rfl))
  obtain ⟨-, outcome, after, hrun, -, hend⟩ :=
    downAll_outcome.1 [stuck, Layout.indexes] db hms horderly.hasRecords hchecked
  rw [hreverting] at hend
  cases outcome with
  | ok _ =>
    obtain ⟨⟨made, hmade, -⟩, -⟩ := hend
    obtain ⟨_, middle, -, hrest⟩ := ok_of_run_bind hmade
    obtain ⟨_, _, hstuck, -⟩ := ok_of_run_bind hrest
    cases hstuck
  | error e =>
    obtain ⟨m, hm, hcarried, hleft, hfailed⟩ := hend
    rcases List.mem_cons.mp hm with rfl | hm
    · -- Nothing keeps the indexes from being reverted.
      cases Way.eq_of_carried_nil hcarried
      obtain ⟨made, hbody⟩ := exists_dropIndexes horderly
      have hindexes : Layout.indexes ∈ Layout.all := by simp [Layout.all]
      have hmade := (Way.settles_down hindexes db made horderly hbody).1
      have hstep := Way.run_step (w := .down) (Layout.apart_down hindexes) hbody
        (Way.recordable_eq_ok_iff.mpr ⟨hmade.hasRecords, hmade.unbarred⟩)
      cases hfailed.symm.trans hstep
    · cases List.mem_singleton.mp hm
      cases hfailed
      refine ⟨after, hrun, fun version => ?_⟩
      rw [hleft, hrecorded]
      simp [stuck, Layout.indexes]
      omega

end Migration

end Gatehouse.Database
