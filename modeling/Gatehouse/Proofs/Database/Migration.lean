import Gatehouse.Proofs.Database.Apart

/-! Runs of migrations, up and down alike. A run passes over the migrations that are not due, and
makes one step after another of those that are: what the migration does, and the change of its
record. The steps and the records can be told apart, since no migration knows of the records. -/
namespace Gatehouse.Database

variable {db after : Database}

def IsRecorded (db : Database) (version : Int) : Prop := version ∈ db.rows.applied

namespace Migration

/-! ## Versions that are accepted -/

theorem fault?_eq_none_iff {seen : List Int} {version : Int} {name : String} :
    fault? seen version name = none ↔
      0 < version ∧ version ∉ seen ∧ ∀ previous ∈ seen.head?, previous ≤ version := by
  unfold fault?
  cases seen with
  | nil => simp
  | cons previous rest =>
    simp only [List.contains_iff_mem, List.head?_cons, Option.mem_def, Option.some.injEq]
    split
    · simp
      omega
    · split
      · simp_all
      · simp_all

theorem ascending_of_checkAfter {seen : List Int} {versions : List (Int × String)}
    (h : checkAfter seen versions = .ok ()) :
    (∀ previous ∈ seen.head?, ∀ v ∈ versions, previous < v.1) ∧
      versions.Pairwise fun v later => v.1 < later.1 := by
  induction versions generalizing seen with
  | nil => simp
  | cons v rest ih =>
    obtain ⟨version, name⟩ := v
    rw [checkAfter] at h
    split at h
    · contradiction
    · rename_i hfault
      obtain ⟨-, hnew, hbefore⟩ := fault?_eq_none_iff.mp hfault
      obtain ⟨hlater, hrest⟩ := ih h
      have hless : ∀ v ∈ rest, version < v.1 := hlater version rfl
      refine ⟨fun previous hprevious v hv => ?_, List.pairwise_cons.mpr ⟨hless, hrest⟩⟩
      have hle := hbefore previous hprevious
      have hne : previous ≠ version := by
        rintro rfl
        exact hnew (List.mem_of_mem_head? hprevious)
      rcases List.mem_cons.mp hv with rfl | hv
      · omega
      · have hv := hless v hv
        omega

/-- In a list that is accepted each version is above the one before it. -/
theorem ascending_of_checkVersions {ms : List Migration}
    (h : checkVersions (versions ms) = .ok ()) :
    ms.Pairwise fun m later => m.version < later.version := by
  have hversions := (ascending_of_checkAfter h).2
  rwa [versions, List.pairwise_map] at hversions

/-! ## Ways -/

/-- The way that a run of migrations goes: up, at some second, or down. -/
inductive Way where
  | up (second : Int)
  | down

namespace Way

/-- What a migration does on the way, apart from its record. -/
def body : Way → Migration → Change MigrationError Unit
  | up _, m => m.up
  | down, m => m.down

def record : Way → Migration → Change MigrationError Unit
  | up second, m => m.record second
  | down, m => m.unrecord

def mark (w : Way) (records : Std.ExtTreeMap Int Applied) (m : Migration) :
    Std.ExtTreeMap Int Applied :=
  match w with
  | up second => records.insert m.version ⟨m.name, second⟩
  | down => records.erase m.version

/-- Whether versions end up recorded. -/
def leaves : Way → Bool
  | up _ => true
  | down => false

def isDue (w : Way) (records : Std.ExtTreeMap Int Applied) (m : Migration) : Bool :=
  records.contains m.version != w.leaves

def once : Way → Migration → Change MigrationError Unit
  | up second, m => m.applyOnce second
  | down, m => m.revertOnce

def step (w : Way) (m : Migration) : Change MigrationError Unit := do
  w.body m
  w.record m

/-- Whether a version comes before another. -/
def precedes : Way → Int → Int → Bool
  | up _, a, b => a < b
  | down, a, b => b < a

def arrange : Way → List Migration → List Migration
  | up _, ms => ms
  | down, ms => ms.reverse

/-- The steps that a run has to make. -/
def due (w : Way) (db : Database) (ms : List Migration) : List Migration :=
  (w.arrange ms).filter (w.isDue db.rows.applied)

def run : Way → List Migration → Database → Except MigrationError Unit × Database
  | up second, ms, db => upAll second ms db
  | down, ms, db => downAll ms db

/-- The database after all that some migrations do, with the records that are left then. -/
def Carried (w : Way) (done : List Migration) (db after : Database) : Prop :=
  ∃ made, StateT.run (done.forM w.body) db = .ok ((), made) ∧
    after = made.withRecords (done.foldl w.mark db.rows.applied)

/-- How a run of steps can end: it makes all of them, or those before one that fails. -/
inductive Ends (w : Way) (db : Database) :
    List Migration → Except MigrationError Unit → Database → Prop where
  | all {ms : List Migration} {after : Database}
    (h : StateT.run (ms.forM w.step) db = .ok ((), after)) : Ends w db ms (.ok ()) after
  | failed {done : List Migration} {m : Migration} {rest : List Migration} {after : Database}
    {e : MigrationError} (h : StateT.run (done.forM w.step) db = .ok ((), after))
    (hfailed : StateT.run (w.step m) after = .error e) :
    Ends w db (done ++ m :: rest) (.error e) after

variable {w : Way} {m : Migration} {ms done : List Migration}

/-! ## Marks -/

theorem contains_mark (records : Std.ExtTreeMap Int Applied) (version : Int) :
    (w.mark records m).contains version =
      if m.version = version then w.leaves else records.contains version := by
  cases w <;> by_cases h : m.version = version <;> simp [mark, leaves, h]

theorem contains_foldl_mark (records : Std.ExtTreeMap Int Applied) (version : Int) :
    (done.foldl w.mark records).contains version =
      if version ∈ done.map Migration.version then w.leaves else records.contains version := by
  induction done generalizing records with
  | nil => rfl
  | cons m done ih =>
    rw [List.foldl_cons, ih, contains_mark]
    grind

theorem isDue_mark {other : Migration} (records : Std.ExtTreeMap Int Applied)
    (h : m.version ≠ other.version) : w.isDue (w.mark records m) other = w.isDue records other := by
  rw [isDue, isDue, contains_mark, if_neg h]

/-! ## One step -/

/-- Why no record can be changed, if none can. -/
def recordable (db : Database) : Except MigrationError Unit :=
  Except.mapError .database do
    if db.closed then throw .closed
    resolveTable db.schema
    unlessBarred db (.ok ())

theorem recordable_eq_ok_iff : recordable db = .ok () ↔ db.HasRecords ∧ db.barrier = none := by
  have hrecords : db.HasRecords ↔ db.closed = false ∧ resolveTable db.schema = .ok () :=
    ⟨fun h => ⟨h.isOpen, h.resolves⟩, fun h => ⟨h.1, h.2⟩⟩
  rw [hrecords]
  unfold recordable unlessBarred
  cases db.closed with
  | true => simp [Except.mapError, throw, throwThe, MonadExceptOf.throw, bind, Except.bind]
  | false =>
    cases resolveTable db.schema with
    | error fault => simp [Except.mapError, bind, Except.bind]
    | ok _ => cases db.barrier <;> simp [Except.mapError, bind, Except.bind]

theorem run_record (w : Way) (m : Migration) (db : Database) :
    StateT.run (w.record m) db =
      (recordable db).map fun _ => ((), db.withRecords (w.mark db.rows.applied m)) := by
  have hrecord : w.record m = (update resolveTable fun r =>
      .ok ((), { r with applied := w.mark r.applied m })).mapError .database := by
    cases w <;> rfl
  rw [hrecord]
  change Except.mapError MigrationError.database (do
    if db.closed then throw .closed
    resolveTable db.schema
    unlessBarred db (.ok ((), db.withRecords (w.mark db.rows.applied m)))) = _
  unfold recordable unlessBarred
  cases db.closed with
  | true => rfl
  | false =>
    cases resolveTable db.schema with
    | error fault => rfl
    | ok _ => cases db.barrier <;> rfl

theorem run_once (h : db.HasRecords) :
    StateT.run (w.once m) db =
      if w.isDue db.rows.applied m then StateT.run (w.step m) db else .ok ((), db) := by
  have happlied : StateT.run (isApplied m.version) db =
      .ok (db.rows.applied.contains m.version, db) :=
    run_mapError (run_query h.isOpen h.resolves)
  cases w <;>
  · refine (run_bind happlied).trans ?_
    unfold isDue
    cases db.rows.applied.contains m.version <;> rfl

theorem run_step (hm : (w.body m).Apart) {made : Database}
    (hbody : StateT.run (w.body m) db = .ok ((), made)) (hmade : recordable made = .ok ()) :
    StateT.run (w.step m) db = .ok ((), made.withRecords (w.mark db.rows.applied m)) := by
  refine (run_bind hbody).trans ?_
  rw [run_record, hmade, hm.applied_eq hbody]
  rfl

theorem ok_of_step (hm : (w.body m).Apart) (h : StateT.run (w.step m) db = .ok ((), after)) :
    ∃ made, StateT.run (w.body m) db = .ok ((), made) ∧ recordable made = .ok () ∧
      after = made.withRecords (w.mark db.rows.applied m) := by
  obtain ⟨_, made, hbody, hrecord⟩ := ok_of_run_bind h
  rw [run_record] at hrecord
  cases hmade : recordable made with
  | error e =>
    rw [hmade] at hrecord
    contradiction
  | ok _ =>
    rw [hmade, hm.applied_eq hbody] at hrecord
    cases hrecord
    exact ⟨made, hbody, hmade, rfl⟩

theorem hasRecords_of_step (hm : (w.body m).Apart) (hdb : db.HasRecords)
    (h : StateT.run (w.step m) db = .ok ((), after)) : after.HasRecords := by
  obtain ⟨made, hbody, -, rfl⟩ := ok_of_step hm h
  exact (hm.hasRecords hbody hdb).withRecords _

/-! ## Many steps -/

/-- The records can be set down after all steps as well as after each. -/
theorem carried_of_steps (hdone : ∀ m ∈ done, (w.body m).Apart)
    (h : StateT.run (done.forM w.step) db = .ok ((), after)) : w.Carried done db after := by
  induction done generalizing db with
  | nil =>
    cases h
    exact ⟨_, rfl, rfl⟩
  | cons m done ih =>
    obtain ⟨hm, hrest⟩ := List.forall_mem_cons.mp hdone
    obtain ⟨_, middle, hfirst, hsteps⟩ := ok_of_run_bind h
    obtain ⟨first, hbody, -, rfl⟩ := ok_of_step hm hfirst
    obtain ⟨last, hbodies, rfl⟩ := ih hrest hsteps
    obtain ⟨made, hmade, rfl⟩ := (Change.apart_forM hrest).ok_of_run hbodies
    exact ⟨made, (run_bind hbody).trans hmade, rfl⟩

theorem contains_of_carried (h : w.Carried done db after) (version : Int) :
    after.rows.applied.contains version =
      if version ∈ done.map Migration.version then w.leaves
      else db.rows.applied.contains version := by
  obtain ⟨made, -, rfl⟩ := h
  exact contains_foldl_mark _ version

theorem isRecorded_of_carried_up {second version : Int} (h : (up second).Carried done db after) :
    after.IsRecorded version ↔ db.IsRecorded version ∨ version ∈ done.map Migration.version := by
  simp only [IsRecorded, Std.ExtTreeMap.mem_iff_contains, contains_of_carried h, leaves]
  split <;> simp_all

theorem isRecorded_of_carried_down {version : Int} (h : down.Carried done db after) :
    after.IsRecorded version ↔ db.IsRecorded version ∧ version ∉ done.map Migration.version := by
  simp only [IsRecorded, Std.ExtTreeMap.mem_iff_contains, contains_of_carried h, leaves]
  split <;> simp_all

theorem hasRecords_of_carried (hdone : ∀ m ∈ done, (w.body m).Apart) (hdb : db.HasRecords)
    (h : w.Carried done db after) : after.HasRecords := by
  obtain ⟨made, hmade, rfl⟩ := h
  exact ((Change.apart_forM hdone).hasRecords hmade hdb).withRecords _

theorem eq_of_carried_nil (h : w.Carried [] db after) : after = db := by
  obtain ⟨made, hmade, rfl⟩ := h
  cases hmade
  rfl

/-! ## Runs -/

theorem runAll_cons (change : Change MigrationError Unit) (rest : List (Change MigrationError Unit))
    (db : Database) :
    runAll (change :: rest) db = match StateT.run change db with
      | .ok ((), after) => runAll rest after
      | .error e => (.error e, db) := by
  rw [runAll, Change.run]
  cases StateT.run change db <;> rfl

theorem runAll_induction {I : Database → Prop} {changes : List (Change MigrationError Unit)}
    (h : ∀ change ∈ changes, ∀ db after, I db → StateT.run change db = .ok ((), after) → I after)
    (hdb : I db) : I (runAll changes db).2 := by
  induction changes generalizing db with
  | nil => exact hdb
  | cons change rest ih =>
    obtain ⟨hchange, hrest⟩ := List.forall_mem_cons.mp h
    rw [runAll_cons]
    cases hrun : StateT.run change db with
    | error e => exact hdb
    | ok result => exact ih hrest (hchange db result.2 hdb hrun)

theorem runAll_of_ok (h : StateT.run (ms.forM w.step) db = .ok ((), after)) :
    runAll (ms.map w.step) db = (.ok (), after) := by
  induction ms generalizing db with
  | nil =>
    cases h
    rfl
  | cons m ms ih =>
    obtain ⟨_, middle, hfirst, hrest⟩ := ok_of_run_bind h
    rw [List.map_cons, runAll_cons, hfirst]
    exact ih hrest

theorem Ends.cons {outcome : Except MigrationError Unit} {middle : Database}
    (hstep : StateT.run (w.step m) db = .ok ((), middle)) (h : w.Ends middle ms outcome after) :
    w.Ends db (m :: ms) outcome after := by
  cases h with
  | all h => exact .all ((run_bind hstep).trans h)
  | failed h hfailed =>
    rw [← List.cons_append]
    exact .failed ((run_bind hstep).trans h) hfailed

theorem ends_runAll (w : Way) (ms : List Migration) (db : Database) :
    w.Ends db ms (runAll (ms.map w.step) db).1 (runAll (ms.map w.step) db).2 := by
  induction ms generalizing db with
  | nil => exact .all rfl
  | cons m ms ih =>
    rw [List.map_cons, runAll_cons]
    cases hstep : StateT.run (w.step m) db with
    | error e =>
      rw [← List.nil_append (m :: ms)]
      exact .failed rfl hstep
    | ok result => exact .cons hstep (ih result.2)

/-- A run passes over what is not due, since no step makes another one due. -/
theorem runAll_once (hms : ∀ m ∈ ms, (w.body m).Apart)
    (hdistinct : (ms.map Migration.version).Nodup) (hdb : db.HasRecords) :
    runAll (ms.map w.once) db =
      runAll ((ms.filter (w.isDue db.rows.applied)).map w.step) db := by
  induction ms generalizing db with
  | nil => rfl
  | cons m ms ih =>
    obtain ⟨hm, hrest⟩ := List.forall_mem_cons.mp hms
    obtain ⟨hnew, hdistinct⟩ := List.nodup_cons.mp hdistinct
    rw [List.map_cons, runAll_cons, run_once hdb]
    by_cases hdue : w.isDue db.rows.applied m = true
    · rw [if_pos hdue, List.filter_cons_of_pos hdue, List.map_cons, runAll_cons]
      cases hstep : StateT.run (w.step m) db with
      | error e => rfl
      | ok result =>
        dsimp only
        rw [ih hrest hdistinct (hasRecords_of_step hm hdb hstep)]
        obtain ⟨made, hbody, -, hafter⟩ := ok_of_step hm hstep
        rw [hafter]
        congr 2
        apply List.filter_congr
        intro other hother
        exact isDue_mark _ fun hsame => hnew (hsame ▸ List.mem_map_of_mem hother)
    · rw [if_neg hdue, List.filter_cons_of_neg hdue]
      exact ih hrest hdistinct hdb

theorem pairwise_arrange (h : ms.Pairwise fun m later => m.version < later.version) :
    (w.arrange ms).Pairwise fun m later => w.precedes m.version later.version = true := by
  cases w with
  | up second => simpa [arrange, precedes] using h
  | down => simpa [arrange, precedes, List.pairwise_reverse] using h

theorem pairwise_due (h : ms.Pairwise fun m later => m.version < later.version) (db : Database) :
    (w.due db ms).Pairwise fun m later => w.precedes m.version later.version = true :=
  (pairwise_arrange h).filter _

theorem mem_arrange : m ∈ w.arrange ms ↔ m ∈ ms := by
  cases w <;> simp [arrange]

theorem run_of_refused {e : MigrationError} (h : checkVersions (versions ms) = .error e)
    (db : Database) : w.run ms db = (.error e, db) := by
  cases w <;> simp only [run, upAll, downAll, h]

theorem run_of_checked (h : checkVersions (versions ms) = .ok ()) (db : Database) :
    w.run ms db = runAll ((w.arrange ms).map w.once) db := by
  cases w <;> simp only [run, upAll, downAll, h] <;> rfl

/-- A run of accepted migrations makes the steps that are due. -/
theorem run_eq (hms : ∀ m ∈ ms, (w.body m).Apart) (hdb : db.HasRecords)
    (h : checkVersions (versions ms) = .ok ()) :
    w.run ms db = runAll ((w.due db ms).map w.step) db := by
  rw [run_of_checked h]
  apply runAll_once (fun m hm => hms m (mem_arrange.mp hm)) _ hdb
  apply List.pairwise_map.mpr
  apply (pairwise_arrange (ascending_of_checkVersions h)).imp
  intro a b hab
  cases w <;> simp [precedes] at hab <;> omega

theorem ends_run (hms : ∀ m ∈ ms, (w.body m).Apart) (hdb : db.HasRecords)
    (h : checkVersions (versions ms) = .ok ()) :
    w.Ends db (w.due db ms) (w.run ms db).1 (w.run ms db).2 := by
  rw [run_eq hms hdb h]
  exact ends_runAll w _ db

theorem filter_precedes {rest : List Migration}
    (h : (done ++ m :: rest).Pairwise fun m later => w.precedes m.version later.version = true) :
    (done ++ m :: rest).filter (fun other => w.precedes other.version m.version) = done := by
  obtain ⟨-, hrest, hbefore⟩ := List.pairwise_append.mp h
  have hself : w.precedes m.version m.version = false := by cases w <;> simp [precedes]
  have hdone : ∀ other ∈ done, w.precedes other.version m.version = true := fun other hother =>
    hbefore other hother m List.mem_cons_self
  have hlater : ∀ other ∈ rest, ¬w.precedes other.version m.version = true := by
    intro other hother
    have hless := (List.pairwise_cons.mp hrest).1 other hother
    cases w <;> simp [precedes] at hless ⊢ <;> omega
  rw [List.filter_append, List.filter_eq_self.mpr hdone, List.filter_cons_of_neg (by simp [hself]),
    List.filter_eq_nil_iff.mpr hlater, List.append_nil]

/-- A run of accepted migrations carries out those that are due; or one of them fails, and then it
carries out those before that one. -/
theorem exists_run (hms : ∀ m ∈ ms, (w.body m).Apart) (hdb : db.HasRecords)
    (h : checkVersions (versions ms) = .ok ()) :
    ∃ outcome after, w.run ms db = (outcome, after) ∧ match outcome with
      | .ok () => w.Carried (w.due db ms) db after
      | .error e => ∃ m ∈ w.due db ms,
        let done := (w.due db ms).filter fun other => w.precedes other.version m.version
        StateT.run (done.forM w.step) db = .ok ((), after) ∧ w.Carried done db after ∧
          StateT.run (w.step m) after = .error e := by
  have hends := ends_run (w := w) hms hdb h
  have hordered := pairwise_due (w := w) (ascending_of_checkVersions h) db
  have hdue : ∀ m ∈ w.due db ms, (w.body m).Apart := fun m hm =>
    hms m (mem_arrange.mp (List.mem_filter.mp hm).1)
  generalize w.due db ms = steps at hends hordered hdue ⊢
  generalize w.run ms db = result at hends ⊢
  obtain ⟨outcome, after⟩ := result
  refine ⟨outcome, after, rfl, ?_⟩
  cases hends with
  | all hsteps => exact carried_of_steps hdue hsteps
  | @failed done m rest _ e hsteps hfailed =>
    refine ⟨m, by simp, ?_⟩
    rw [filter_precedes hordered]
    refine ⟨hsteps, carried_of_steps (fun m hm => hdue m ?_) hsteps, hfailed⟩
    exact List.mem_append_left _ hm

end Way

end Migration

end Gatehouse.Database
