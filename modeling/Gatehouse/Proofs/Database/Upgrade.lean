import Gatehouse.Proofs.Database.Migration

/-! Going up. The versions that are not recorded yet are applied in ascending order, each as a whole
with its record, until one fails. Going up again makes good what was left, and comes to the same end
as if nothing had failed. -/
namespace Gatehouse.Database.Migration

variable {second version : Int} {ms done : List Migration} {db after : Database}

/-! ## What is left to be done -/

/-- The migrations that are not recorded. -/
def pending (db : Database) (ms : List Migration) : List Migration :=
  ms.filter fun m => !db.rows.applied.contains m.version

/-- The migrations below a version. -/
def below (version : Int) (ms : List Migration) : List Migration :=
  ms.filter fun m => m.version < version

theorem not_mem_below : version ∉ (below version ms).map Migration.version := by
  intro h
  obtain ⟨m, hm, hversion⟩ := List.mem_map.mp h
  have hless := of_decide_eq_true (List.mem_filter.mp hm).2
  omega

theorem due_up (db : Database) (ms : List Migration) :
    (Way.up second).due db ms = pending db ms := by
  unfold Way.due Way.isDue Way.arrange Way.leaves pending
  simp

theorem mem_pending {m : Migration} :
    m ∈ pending db ms ↔ m ∈ ms ∧ ¬db.IsRecorded m.version := by
  rw [pending, List.mem_filter, IsRecorded, Std.ExtTreeMap.mem_iff_contains, Bool.not_eq_true',
    Bool.not_eq_true]

theorem isRecorded_of_carried_pending (h : (Way.up second).Carried (pending db ms) db after) :
    after.IsRecorded version ↔ db.IsRecorded version ∨ version ∈ ms.map Migration.version := by
  rw [Way.isRecorded_of_carried_up h, List.mem_map, List.mem_map]
  constructor
  · rintro (hrecorded | ⟨m, hm, rfl⟩)
    · exact .inl hrecorded
    · exact .inr ⟨m, (mem_pending.mp hm).1, rfl⟩
  · rintro (hrecorded | ⟨m, hm, rfl⟩)
    · exact .inl hrecorded
    · by_cases hrecorded : db.IsRecorded m.version
      · exact .inl hrecorded
      · exact .inr ⟨m, mem_pending.mpr ⟨hm, hrecorded⟩, rfl⟩

theorem pending_congr {other : Database} (h : other.rows.applied = db.rows.applied)
    (ms : List Migration) : pending other ms = pending db ms := by
  rw [pending, pending, h]

theorem pending_eq_nil (h : ∀ m ∈ ms, db.IsRecorded m.version) : pending db ms = [] := by
  apply List.filter_eq_nil_iff.mpr
  intro m hm
  simpa [IsRecorded] using h m hm

theorem below_append_filter (h : ms.Pairwise fun m later => m.version < later.version)
    (version : Int) : ms = below version ms ++ ms.filter fun m => version ≤ m.version := by
  induction ms with
  | nil => rfl
  | cons m ms ih =>
    obtain ⟨hm, hrest⟩ := List.pairwise_cons.mp h
    by_cases hless : m.version < version
    · rw [below, List.filter_cons_of_pos (by simpa using hless),
        List.filter_cons_of_neg (by simpa using hless), List.cons_append]
      exact congrArg (m :: ·) (ih hrest)
    · have hall : ∀ other ∈ m :: ms, version ≤ other.version := by
        intro other hother
        rcases List.mem_cons.mp hother with rfl | hother
        · omega
        · have hlater := hm other hother
          omega
      have hnone : below version (m :: ms) = [] :=
        List.filter_eq_nil_iff.mpr fun other hother => by simpa using hall other hother
      rw [hnone, List.nil_append]
      exact (List.filter_eq_self.mpr fun other hother => by simpa using hall other hother).symm

theorem below_pending (version : Int) (db : Database) (ms : List Migration) :
    below version (pending db ms) = pending db (below version ms) := by
  rw [below, pending, pending, below, List.filter_filter, List.filter_filter]
  simp only [Bool.and_comm]

/-! ## Going up without a failure -/

theorem checked_of_upAll (h : upAll second ms db = (.ok (), after)) :
    checkVersions (versions ms) = .ok () := by
  unfold upAll at h
  split at h
  · assumption
  · cases h

theorem steps_of_upAll (hms : ∀ m ∈ ms, m.up.Apart) (hdb : db.HasRecords)
    (h : upAll second ms db = (.ok (), after)) :
    StateT.run ((pending db ms).forM (Way.up second).step) db = .ok ((), after) := by
  have hends := Way.ends_run (w := .up second) hms hdb (checked_of_upAll h)
  rw [due_up, Way.run, h] at hends
  generalize pending db ms = steps at hends ⊢
  cases hends with
  | all hsteps => exact hsteps

theorem upAll_of_steps (hms : ∀ m ∈ ms, m.up.Apart) (hdb : db.HasRecords)
    (hchecked : checkVersions (versions ms) = .ok ())
    (h : StateT.run ((pending db ms).forM (Way.up second).step) db = .ok ((), after)) :
    upAll second ms db = (.ok (), after) := by
  have hrun := Way.run_eq (w := .up second) hms hdb hchecked
  rw [due_up] at hrun
  exact hrun.trans (Way.runAll_of_ok h)

theorem isRecorded_of_upAll (hms : ∀ m ∈ ms, m.up.Apart) (hdb : db.HasRecords)
    (h : upAll second ms db = (.ok (), after)) :
    after.IsRecorded version ↔ db.IsRecorded version ∨ version ∈ ms.map Migration.version := by
  have hpending : ∀ m ∈ pending db ms, m.up.Apart := fun m hm => hms m (mem_pending.mp hm).1
  exact isRecorded_of_carried_pending
    (Way.carried_of_steps (w := .up second) hpending (steps_of_upAll hms hdb h))

theorem middle_of_append {first rest : List Migration} {f : Migration → Change MigrationError Unit}
    (h : StateT.run ((first ++ rest).forM f) db = .ok ((), after)) :
    ∃ middle, StateT.run (first.forM f) db = .ok ((), middle) ∧
      StateT.run (rest.forM f) middle = .ok ((), after) := by
  rw [List.forM_eq_forM, List.forM_append] at h
  obtain ⟨_, middle, hfirst, hrest⟩ := ok_of_run_bind h
  exact ⟨middle, hfirst, hrest⟩

/-! ## Repairs -/

/-- A repair takes away the cause of a failure. It knows nothing of the records, and what some
migrations have done, they would have done to the repaired database too. -/
structure Mends (repair : Database → Database) (done : List Migration) : Prop where
  withRecords (db : Database) (records : Std.ExtTreeMap Int Applied) :
    repair (db.withRecords records) = (repair db).withRecords records
  hasRecords {db : Database} (h : db.HasRecords) : (repair db).HasRecords
  unbarred {db : Database} (h : db.barrier = none) : (repair db).barrier = none
  run_up {db after : Database} {m : Migration} (hm : m ∈ done)
    (h : StateT.run m.up db = .ok ((), after)) :
    StateT.run m.up (repair db) = .ok ((), repair after)

theorem Mends.applied_eq {repair : Database → Database} (h : Mends repair done) (db : Database) :
    (repair db).rows.applied = db.rows.applied :=
  congrArg (·.rows.applied) (h.withRecords db db.rows.applied)

theorem Mends.isRecorded {repair : Database → Database} (h : Mends repair done) :
    (repair db).IsRecorded version ↔ db.IsRecorded version := by
  rw [IsRecorded, h.applied_eq]
  rfl

theorem mends_id (done : List Migration) : Mends id done where
  withRecords _ _ := rfl
  hasRecords h := h
  unbarred h := h
  run_up _ h := h

theorem Mends.mono {repair : Database → Database} (h : Mends repair done) {some : List Migration}
    (hsome : ∀ m ∈ some, m ∈ done) : Mends repair some where
  withRecords := h.withRecords
  hasRecords := h.hasRecords
  unbarred := h.unbarred
  run_up hm := h.run_up (hsome _ hm)

theorem Mends.run_steps {repair : Database → Database} (hrepair : Mends repair done)
    (hdone : ∀ m ∈ done, m.up.Apart)
    (h : StateT.run (done.forM (Way.up second).step) db = .ok ((), after)) (later : Int)
    (records : Std.ExtTreeMap Int Applied) :
    ∃ left, StateT.run (done.forM (Way.up later).step) ((repair db).withRecords records) =
      .ok ((), (repair after).withRecords left) := by
  induction done generalizing db records with
  | nil =>
    cases h
    exact ⟨records, rfl⟩
  | cons m done ih =>
    obtain ⟨hm, hrest⟩ := List.forall_mem_cons.mp hdone
    obtain ⟨_, middle, hfirst, hsteps⟩ := ok_of_run_bind h
    obtain ⟨made, hup, hmade, rfl⟩ := Way.ok_of_step (w := .up second) hm hfirst
    have hrepaired : StateT.run m.up ((repair db).withRecords records) =
        .ok ((), (repair made).withRecords records) :=
      hm.run_of_ok (hrepair.run_up List.mem_cons_self hup)
    have hrecordable : Way.recordable ((repair made).withRecords records) = .ok () := by
      obtain ⟨hrecords, hfree⟩ := Way.recordable_eq_ok_iff.mp hmade
      exact Way.recordable_eq_ok_iff.mpr
        ⟨(hrepair.hasRecords hrecords).withRecords records, hrepair.unbarred hfree⟩
    have hstep := Way.run_step (w := .up later) hm hrepaired hrecordable
    obtain ⟨left, hleft⟩ := ih (hrepair.mono fun _ => List.mem_cons_of_mem m) hrest
      hsteps (Way.mark (.up later) records m)
    rw [hrepair.withRecords] at hleft
    exact ⟨left, (run_bind hstep).trans hleft⟩

/-- Going up again brings the repaired database, with whatever lists there are by then of which the
earlier versions are the same, to where going up for the first time would have brought it. -/
def IsResumable (ms : List Migration) (version : Int) (db after : Database) : Prop :=
  ∀ (repair : Database → Database) (revised : List Migration), Mends repair (below version ms) →
    (∀ m ∈ revised, m.up.Apart) → below version revised = below version ms →
    ∀ moment whole, upAll moment revised (repair db) = (.ok (), whole) →
      ∀ later, ∃ resumed, upAll later revised (repair after) = (.ok (), resumed) ∧
        resumed = whole.withRecords resumed.rows.applied ∧
        ∀ version, resumed.IsRecorded version ↔ whole.IsRecorded version

/-- After a failure those are left that were due and were not carried out. -/
theorem pending_of_carried (h : (Way.up second).Carried (below version (pending db ms)) db after) :
    pending after ms = (pending db ms).filter fun m => version ≤ m.version := by
  rw [pending, pending, List.filter_filter]
  apply List.filter_congr
  intro m hm
  rw [Way.contains_of_carried h, Way.leaves]
  cases hrecorded : db.rows.applied.contains m.version with
  | true => simp
  | false =>
    have hdone : m.version ∈ (below version (pending db ms)).map Migration.version ↔
        m.version < version := by
      simp only [below, pending, List.mem_map, List.mem_filter, decide_eq_true_eq]
      constructor
      · rintro ⟨other, ⟨-, hless⟩, hsame⟩
        omega
      · intro hless
        exact ⟨m, ⟨⟨hm, by simp [hrecorded]⟩, hless⟩, rfl⟩
    by_cases hless : m.version < version
    · simp [hdone, hless]
    · simp [hdone, hless, Int.not_lt.mp hless]

theorem isResumable (hms : ∀ m ∈ ms, m.up.Apart) (hdb : db.HasRecords)
    (h : StateT.run ((below version (pending db ms)).forM (Way.up second).step) db =
      .ok ((), after)) : IsResumable ms version db after := by
  intro repair revised hrepair hrevised hbelow moment whole hwhole later
  have hsame : below version (pending db revised) = below version (pending db ms) := by
    rw [below_pending, below_pending, hbelow]
  have hchecked := checked_of_upAll hwhole
  have hdone : ∀ m ∈ below version (pending db ms), m.up.Apart := fun m hm =>
    hms m (mem_pending.mp (List.mem_filter.mp hm).1).1
  have hcarried := Way.carried_of_steps (w := .up second) hdone h
  have hrecords := Way.hasRecords_of_carried hdone hdb hcarried
  -- Going up for the first time makes the steps before the failure, and then those that are left.
  generalize hleft : (pending db revised).filter (fun m => version ≤ m.version) = left
  have hsteps := steps_of_upAll hrevised (hrepair.hasRecords hdb) hwhole
  have hsplit : pending (repair db) revised = below version (pending db ms) ++ left := by
    rw [pending_congr (hrepair.applied_eq db), ← hsame, ← hleft]
    exact below_append_filter ((ascending_of_checkVersions hchecked).filter _) version
  rw [hsplit] at hsteps
  obtain ⟨middle, hfirst, hrest⟩ := middle_of_append hsteps
  -- The steps before the failure lead to the repaired database, whatever the records are.
  have hearlier : Mends repair (below version (pending db ms)) := by
    apply hrepair.mono
    rw [below_pending]
    exact fun m hm => (mem_pending.mp hm).1
  obtain ⟨records, hmiddle⟩ := hearlier.run_steps hdone h moment (repair db).rows.applied
  cases hfirst.symm.trans hmiddle
  have hlater : ∀ m ∈ left, m.up.Apart := by
    rw [← hleft]
    exact fun m hm => hrevised m (mem_pending.mp (List.mem_filter.mp hm).1).1
  obtain ⟨final, hfinal⟩ :=
    (mends_id left).run_steps hlater hrest later (repair after).rows.applied
  have hresumed : upAll later revised (repair after) = (.ok (), whole.withRecords final) := by
    apply upAll_of_steps hrevised (hrepair.hasRecords hrecords) hchecked
    rw [pending_congr (hrepair.applied_eq after), pending_of_carried (hsame ▸ hcarried), hleft]
    exact hfinal
  refine ⟨whole.withRecords final, hresumed, rfl, fun other => ?_⟩
  have hlisted (hother : other ∈ (below version (pending db ms)).map Migration.version) :
      other ∈ revised.map Migration.version := by
    obtain ⟨m, hm, rfl⟩ := List.mem_map.mp hother
    rw [← hsame] at hm
    exact List.mem_map_of_mem (mem_pending.mp (List.mem_filter.mp hm).1).1
  rw [isRecorded_of_upAll hrevised (hrepair.hasRecords hdb) hwhole,
    isRecorded_of_upAll hrevised (hrepair.hasRecords hrecords) hresumed, hrepair.isRecorded,
    hrepair.isRecorded, Way.isRecorded_of_carried_up hcarried, or_assoc,
    or_iff_right_of_imp hlisted]

/-! ## All that going up can come to -/

/-- A list that is not accepted changes nothing. Otherwise the versions that are not recorded are
carried out in ascending order; or one fails, which leaves those below it carried out and recorded,
and going up can be resumed from there. -/
theorem upAll_outcome (second : Int) (ms : List Migration) (db : Database)
    (hms : ∀ m ∈ ms, m.up.Apart) (hdb : db.HasRecords) :
    (∀ e, checkVersions (versions ms) = .error e → upAll second ms db = (.error e, db)) ∧
    (checkVersions (versions ms) = .ok () →
      (pending db ms).Pairwise (fun m later => m.version < later.version) ∧
      ∃ outcome after, upAll second ms db = (outcome, after) ∧ match outcome with
        | .ok () => (Way.up second).Carried (pending db ms) db after ∧
          (∀ version, after.IsRecorded version ↔
            db.IsRecorded version ∨ version ∈ ms.map Migration.version) ∧
          ∀ later, upAll later ms after = (.ok (), after)
        | .error e => ∃ m ∈ pending db ms,
          let done := below m.version (pending db ms)
          (Way.up second).Carried done db after ∧
          (∀ version, after.IsRecorded version ↔
            db.IsRecorded version ∨ version ∈ done.map Migration.version) ∧
          StateT.run ((Way.up second).step m) after = .error e ∧
          IsResumable ms m.version db after) := by
  constructor
  · intro e hrefused
    exact Way.run_of_refused (w := .up second) hrefused db
  · intro hchecked
    have hascending := ascending_of_checkVersions hchecked
    refine ⟨hascending.filter _, ?_⟩
    obtain ⟨outcome, after, hrun, hend⟩ := Way.exists_run (w := .up second) hms hdb hchecked
    refine ⟨outcome, after, hrun, ?_⟩
    rw [due_up] at hend
    cases outcome with
    | ok _ =>
      have hrecorded (version : Int) : after.IsRecorded version ↔
          db.IsRecorded version ∨ version ∈ ms.map Migration.version :=
        isRecorded_of_carried_pending hend
      refine ⟨hend, hrecorded, fun later => ?_⟩
      have hnone : pending after ms = [] := pending_eq_nil fun m hm =>
        (hrecorded _).mpr (.inr (List.mem_map_of_mem hm))
      have hpending : ∀ m ∈ pending db ms, m.up.Apart := fun m hm => hms m (mem_pending.mp hm).1
      apply upAll_of_steps hms (Way.hasRecords_of_carried hpending hdb hend) hchecked
      rw [hnone]
      rfl
    | error e =>
      obtain ⟨m, hm, hsteps, hcarried, hfailed⟩ := hend
      refine ⟨m, hm, hcarried, fun version => Way.isRecorded_of_carried_up hcarried, hfailed, ?_⟩
      exact isResumable hms hdb hsteps

/-- A migration that is not ready to be applied. -/
def unready : Migration := ⟨2, "Unready", throw (.failed "not ready"), pure ()⟩

/-- The table of users is made, and going up can be resumed once the second migration is ready. -/
theorem upAll_unready :
    upAll 0 [Layout.users, unready] (Layout.recorded [] 0 []) =
      (.error (.failed "not ready"), Layout.recorded Layout.userObjects 0 [Layout.users]) ∧
    IsResumable [Layout.users, unready] 2 (Layout.recorded [] 0 [])
      (Layout.recorded Layout.userObjects 0 [Layout.users]) := by
  have hchecked : checkVersions (versions [Layout.users, unready]) = .ok () := by decide +kernel
  have hrun : upAll 0 [Layout.users, unready] (Layout.recorded [] 0 []) =
      (.error (.failed "not ready"), Layout.recorded Layout.userObjects 0 [Layout.users]) := by
    refine (Layout.upAll_of_ok hchecked _).trans ?_
    refine (Layout.runAll_cons_of_ok (Layout.run_users 0) _).trans ?_
    have hdue : (Way.up 0).isDue (Layout.recorded Layout.userObjects 0 [Layout.users]).rows.applied
        unready = true := by
      simp [Way.isDue, Way.leaves, Layout.recorded, Layout.users, unready]
    have hrecords : (Layout.recorded Layout.userObjects 0 [Layout.users]).HasRecords :=
      ⟨rfl, Layout.resolveTable_recording _⟩
    have honce : StateT.run (unready.applyOnce 0)
        (Layout.recorded Layout.userObjects 0 [Layout.users]) = .error (.failed "not ready") :=
      (Way.run_once (w := .up 0) hrecords).trans (if_pos hdue)
    refine (Way.runAll_cons (unready.applyOnce 0) [] _).trans ?_
    rw [honce]
  refine ⟨hrun, ?_⟩
  have hms : ∀ m ∈ [Layout.users, unready], m.up.Apart := by
    intro m hm
    rcases List.mem_cons.mp hm with rfl | hm
    · exact Layout.apart_up (by simp [Layout.all])
    · cases List.mem_singleton.mp hm
      exact Change.apart_throw _
  obtain ⟨outcome, after, houtcome, hend⟩ := ((upAll_outcome 0 [Layout.users, unready]
    (Layout.recorded [] 0 []) hms ⟨rfl, Layout.resolveTable_recording []⟩).2 hchecked).2
  cases hrun.symm.trans houtcome
  obtain ⟨m, hm, -, hrecorded, -, hresumable⟩ := hend
  have hlisted := (mem_pending.mp hm).1
  rcases List.mem_cons.mp hlisted with rfl | hlisted
  · -- The first migration has not failed, since it is recorded.
    have hfirst := (hrecorded Layout.users.version).mp (by simp [IsRecorded, Layout.recorded])
    rw [or_iff_left not_mem_below] at hfirst
    simp [IsRecorded, Layout.recorded] at hfirst
  · cases List.mem_singleton.mp hlisted
    exact hresumable

end Gatehouse.Database.Migration
