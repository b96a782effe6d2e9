import Gatehouse.Database.Accounts
import Gatehouse.Database.Layout

/-! What changes of a database keep. A property of the rows that every statement keeps is kept by
all that is put together from statements, whether it succeeds or fails half-way. -/
namespace Gatehouse.Database

namespace Change

variable {P : Rows → Prop} {ε δ α β : Type}

/-- Where the change succeeds, the rows have the property after it if they had it before. -/
def Keeps (P : Rows → Prop) (c : Change ε α) : Prop :=
  ∀ (db : Database) (answer : α) (after : Database),
    StateT.run c db = .ok (answer, after) → P db.rows → P after.rows

/-- A change that fails leaves the rows as they were. -/
theorem Keeps.run {c : Change ε α} (hc : Keeps P c) (db : Database) (h : P db.rows) :
    P (c.run db).2.rows := by
  unfold Change.run
  split
  · rename_i answer after hrun
    exact hc db answer after hrun h
  · exact h

theorem keeps_pure (answer : α) : Keeps P (pure answer : Change ε α) := by
  rintro db _ _ ⟨⟩ h
  exact h

theorem Keeps.bind {c : Change ε α} {f : α → Change ε β} (hc : Keeps P c)
    (hf : ∀ answer, Keeps P (f answer)) : Keeps P (c >>= f) := by
  intro db answer after hrun h
  rw [StateT.run_bind] at hrun
  cases hfirst : StateT.run c db with
  | error e =>
    rw [hfirst] at hrun
    contradiction
  | ok first =>
    rw [hfirst] at hrun
    exact hf first.1 first.2 answer after hrun (hc db first.1 first.2 hfirst h)

theorem run_eq_ok {c : Change ε α} {f : ε → δ} {db : Database} {result : α × Database}
    (h : StateT.run (c.mapError f) db = .ok result) : StateT.run c db = .ok result := by
  cases hrun : StateT.run c db with
  | error e =>
    have hfailed : StateT.run (c.mapError f) db = .error (f e) := congrArg (Except.mapError f) hrun
    rw [hfailed] at h
    contradiction
  | ok other =>
    have hsame : StateT.run (c.mapError f) db = .ok other := congrArg (Except.mapError f) hrun
    rw [hsame] at h
    cases h
    rfl

theorem exists_of_run_mapError {c : Change ε α} {f : ε → δ} {db : Database} {e : δ}
    (h : StateT.run (c.mapError f) db = .error e) :
    ∃ fault, StateT.run c db = .error fault ∧ f fault = e := by
  change Except.mapError f (StateT.run c db) = .error e at h
  cases hrun : StateT.run c db with
  | error fault =>
    rw [hrun] at h
    exact ⟨fault, rfl, Except.error.inj h⟩
  | ok result =>
    rw [hrun] at h
    contradiction

theorem Keeps.mapError {c : Change ε α} (hc : Keeps P c) (f : ε → δ) :
    Keeps P (c.mapError f) :=
  fun db answer after hrun h => hc db answer after (run_eq_ok hrun) h

theorem keeps_forM {ι : Type} {items : List ι} {f : ι → Change ε PUnit}
    (hf : ∀ item ∈ items, Keeps P (f item)) : Keeps P (items.forM f) := by
  induction items with
  | nil => exact keeps_pure PUnit.unit
  | cons item rest ih =>
    exact .bind (hf item List.mem_cons_self) fun _ =>
      ih fun other hother => hf other (List.mem_cons_of_mem _ hother)

end Change

open Change (Keeps keeps_pure keeps_forM run_eq_ok)

variable {P : Rows → Prop} {α : Type}

/-! ## Statements -/

theorem ok_of_bind {ε β : Type} {first : Except ε α} {rest : α → Except ε β} {answer : β}
    (h : (first >>= rest) = .ok answer) : ∃ value, first = .ok value ∧ rest value = .ok answer := by
  cases first with
  | error e => contradiction
  | ok value => exact ⟨value, rfl, h⟩

theorem ok_of_run_bind {ε α β : Type} {c : Change ε α} {f : α → Change ε β} {db after : Database}
    {answer : β} (h : StateT.run (c >>= f) db = .ok (answer, after)) :
    ∃ first middle, StateT.run c db = .ok (first, middle) ∧
      StateT.run (f first) middle = .ok (answer, after) := by
  rw [StateT.run_bind] at h
  obtain ⟨⟨first, middle⟩, hfirst, hrest⟩ := ok_of_bind h
  exact ⟨first, middle, hfirst, hrest⟩

theorem ok_of_run_map {ε α β : Type} {c : Change ε α} {f : α → β} {db after : Database}
    {answer : β} (h : StateT.run (f <$> c) db = .ok (answer, after)) :
    ∃ first, StateT.run c db = .ok (first, after) ∧ f first = answer := by
  rw [StateT.run_map] at h
  cases hrun : StateT.run c db with
  | error e =>
    rw [hrun] at h
    contradiction
  | ok result =>
    rw [hrun] at h
    cases h
    exact ⟨result.1, rfl, rfl⟩

theorem ok_of_run_lift {ε α : Type} {value : Except ε α} {db after : Database} {answer : α}
    (h : StateT.run (liftM value : Change ε α) db = .ok (answer, after)) : db = after := by
  cases value with
  | error e => contradiction
  | ok value =>
    cases h
    rfl

/-- A statement that succeeds has done what its body does. -/
theorem body_of_statement {resolve : Schema → Except Fault Unit}
    {body : Database → Except Fault (α × Database)} {db : Database} {result : α × Database}
    (h : StateT.run (statement resolve body) db = .ok result) : body db = .ok result := by
  change (do
    if db.closed then throw .closed
    resolve db.schema
    body db) = Except.ok result at h
  split at h
  · contradiction
  · obtain ⟨_, -, hbody⟩ := ok_of_bind h
    exact hbody

/-- A statement only succeeds on an open database. -/
theorem isOpen_of_statement {resolve : Schema → Except Fault Unit}
    {body : Database → Except Fault (α × Database)} {db : Database} {result : α × Database}
    (h : StateT.run (statement resolve body) db = .ok result) : db.closed = false := by
  cases hclosed : db.closed with
  | false => rfl
  | true =>
    change (do
      if db.closed then throw .closed
      resolve db.schema
      body db) = Except.ok result at h
    rw [hclosed] at h
    contradiction

/-- The names of a statement that succeeds resolve. -/
theorem resolved_of_statement {resolve : Schema → Except Fault Unit}
    {body : Database → Except Fault (α × Database)} {db : Database} {result : α × Database}
    (h : StateT.run (statement resolve body) db = .ok result) : resolve db.schema = .ok () := by
  change (do
    if db.closed then throw .closed
    resolve db.schema
    body db) = Except.ok result at h
  split at h
  · contradiction
  · obtain ⟨_, hresolved, -⟩ := ok_of_bind h
    exact hresolved

theorem keeps_statement {resolve : Schema → Except Fault Unit}
    {body : Database → Except Fault (α × Database)}
    (hbody : ∀ db answer after, body db = .ok (answer, after) → P db.rows → P after.rows) :
    Keeps P (statement resolve body) :=
  fun db answer after hrun h => hbody db answer after (body_of_statement hrun) h

theorem keeps_query {resolve : Schema → Except Fault Unit} {answer : Rows → α} :
    Keeps P (query resolve answer) := by
  apply keeps_statement
  rintro db _ _ ⟨⟩ h
  exact h

/-- The answer of a query is read off the rows. -/
theorem answer_query {ε : Type} {resolve : Schema → Except Fault Unit} {answer : Rows → α}
    {f : Fault → ε} {db : Database} {value : α}
    (h : (((query resolve answer).mapError f).run db).1 = .ok value) : answer db.rows = value := by
  unfold Change.run at h
  split at h
  · rename_i found after hrun
    cases h
    cases body_of_statement (run_eq_ok hrun)
    rfl
  · contradiction

theorem ok_of_unlessBarred {db : Database} {result : Except Fault α} {value : α}
    (h : unlessBarred db result = .ok value) : result = .ok value := by
  unfold unlessBarred at h
  split at h
  · contradiction
  · exact h

/-- A change of rows that succeeds touches nothing else. -/
theorem ok_of_update {α : Type} {resolve : Schema → Except Fault Unit}
    {body : Rows → Except Fault (α × Rows)} {db after : Database} {answer : α}
    (h : StateT.run (update resolve body) db = .ok (answer, after)) :
    ∃ rows, body db.rows = .ok (answer, rows) ∧ after = { db with rows } := by
  have hchanged := ok_of_unlessBarred (body_of_statement h)
  cases hrows : body db.rows with
  | error fault =>
    rw [hrows] at hchanged
    contradiction
  | ok result =>
    rw [hrows] at hchanged
    cases hchanged
    exact ⟨result.2, rfl, rfl⟩

theorem keeps_update {resolve : Schema → Except Fault Unit}
    {body : Rows → Except Fault (α × Rows)}
    (hbody : ∀ r answer after, body r = .ok (answer, after) → P r → P after) :
    Keeps P (update resolve body) := by
  intro db answer after hrun h
  obtain ⟨rows, hrows, rfl⟩ := ok_of_update hrun
  exact hbody db.rows answer rows hrows h

/-- A change of the schema that succeeds touches nothing else. -/
theorem ok_of_define {body : Schema → Except Fault Schema} {db after : Database} {answer : Unit}
    (h : StateT.run (define body) db = .ok (answer, after)) :
    ∃ schema, body db.schema = .ok schema ∧ after = { db with schema } := by
  obtain ⟨schema, hbody, hmade⟩ := ok_of_bind (body_of_statement h)
  refine ⟨schema, hbody, ?_⟩
  split at hmade
  · rename_i hsame
    cases hmade
    rw [hsame]
  · cases ok_of_unlessBarred hmade
    rfl

theorem keeps_define {body : Schema → Except Fault Schema} : Keeps P (define body) := by
  intro db answer after hrun h
  obtain ⟨schema, -, rfl⟩ := ok_of_define hrun
  exact h

/-- A drop that succeeds has found a table, or there was nothing to be dropped. -/
theorem ok_of_drop {mention : Except Fault Mention} {db after : Database} {answer : Unit}
    (h : StateT.run (drop mention) db = .ok (answer, after)) :
    ∃ m, mention = .ok m ∧ (db.schema.findToDrop m = .ok none ∧ after = db ∨
      ∃ name, db.schema.findToDrop m = .ok (some name) ∧ after = { db with
        schema := db.schema.dropTable name
        rows := db.rows.clear (Schema.fold name) }) := by
  obtain ⟨m, hm, hnamed⟩ := ok_of_bind (body_of_statement h)
  obtain ⟨found, hfound, hdropped⟩ := ok_of_bind hnamed
  refine ⟨m, hm, ?_⟩
  cases found with
  | none =>
    cases hdropped
    exact .inl ⟨hfound, rfl⟩
  | some name =>
    obtain ⟨_, -, hmade⟩ := ok_of_bind hdropped
    cases ok_of_unlessBarred hmade
    exact .inr ⟨name, hfound, rfl⟩

theorem keeps_drop (hclear : ∀ r table, P r → P (r.clear table))
    (mention : Except Fault Mention) : Keeps P (drop mention) := by
  intro db answer after hrun h
  obtain ⟨m, -, ⟨-, rfl⟩ | ⟨name, -, rfl⟩⟩ := ok_of_drop hrun
  · exact h
  · exact hclear db.rows _ h

/-! ## Migrations -/

namespace Migration

variable {second : Int} {m : Migration}

/-- A property that migrations keep: it says nothing of their records, and stays if a table goes. -/
structure Lasting (P : Rows → Prop) : Prop where
  clear (r : Rows) (table : String) (h : P r) : P (r.clear table)
  record (r : Rows) (applied : Std.ExtTreeMap Int Applied) (h : P r) : P { r with applied }

theorem keeps_record (hP : Lasting P) : Keeps P (m.record second) := by
  refine (keeps_update ?_).mapError _
  rintro r _ _ ⟨⟩ h
  exact hP.record r _ h

theorem keeps_unrecord (hP : Lasting P) : Keeps P m.unrecord := by
  refine (keeps_update ?_).mapError _
  rintro r _ _ ⟨⟩ h
  exact hP.record r _ h

theorem keeps_applyOnce (hP : Lasting P) (hup : Keeps P m.up) : Keeps P (m.applyOnce second) := by
  refine .bind (keeps_query.mapError _) fun isApplied => ?_
  cases isApplied with
  | true => exact keeps_pure _
  | false => exact .bind hup fun _ => keeps_record hP

theorem keeps_revertOnce (hP : Lasting P) (hdown : Keeps P m.down) : Keeps P m.revertOnce := by
  refine .bind (keeps_query.mapError _) fun isApplied => ?_
  cases isApplied with
  | true => exact .bind hdown fun _ => keeps_unrecord hP
  | false => exact keeps_pure _

theorem runAll_keeps {changes : List (Change MigrationError Unit)} {db : Database}
    (hchanges : ∀ c ∈ changes, Keeps P c) (h : P db.rows) : P (runAll changes db).2.rows := by
  induction changes generalizing db with
  | nil => exact h
  | cons change rest ih =>
    have hfirst := (hchanges change List.mem_cons_self).run db h
    unfold runAll
    split
    · rename_i after hrun
      rw [hrun] at hfirst
      exact ih (fun c hc => hchanges c (List.mem_cons_of_mem _ hc)) hfirst
    · rename_i e after hrun
      rw [hrun] at hfirst
      exact hfirst

theorem upAll_keeps (hP : Lasting P) {ms : List Migration} {db : Database}
    (hms : ∀ m ∈ ms, Keeps P m.up) (h : P db.rows) : P (upAll second ms db).2.rows := by
  unfold upAll
  split
  · refine runAll_keeps (fun c hc => ?_) h
    obtain ⟨m, hm, rfl⟩ := List.mem_map.mp hc
    exact keeps_applyOnce hP (hms m hm)
  · exact h

theorem downAll_keeps (hP : Lasting P) {ms : List Migration} {db : Database}
    (hms : ∀ m ∈ ms, Keeps P m.down) (h : P db.rows) : P (downAll ms db).2.rows := by
  unfold downAll
  split
  · refine runAll_keeps (fun c hc => ?_) h
    obtain ⟨m, hm, rfl⟩ := List.mem_map.mp hc
    exact keeps_revertOnce hP (hms m (List.mem_reverse.mp hm))
  · exact h

end Migration

namespace Layout

open Migration (Lasting)

theorem keeps_steps {changes : List (Change Fault Unit)} (h : ∀ c ∈ changes, Keeps P c) :
    Keeps P (steps changes) :=
  keeps_forM fun c hc => (h c hc).mapError _

theorem keeps_up {m : Migration} (hm : m ∈ all) : Keeps P m.up := by
  simp only [all, List.mem_cons, List.not_mem_nil, or_false] at hm
  rcases hm with rfl | rfl | rfl
  · exact keeps_steps (List.forall_mem_singleton.mpr keeps_define)
  · refine keeps_steps fun c hc => ?_
    obtain ⟨name, -, rfl⟩ := List.mem_map.mp hc
    exact keeps_define
  · exact keeps_steps
      (List.forall_mem_cons.mpr ⟨keeps_define, List.forall_mem_singleton.mpr keeps_define⟩)

theorem keeps_down (hP : Lasting P) {m : Migration} (hm : m ∈ all) : Keeps P m.down := by
  have hdrop (name : String) : Keeps P (dropTableIfAny name) := keeps_drop hP.clear _
  simp only [all, List.mem_cons, List.not_mem_nil, or_false] at hm
  rcases hm with rfl | rfl | rfl
  · exact keeps_steps (List.forall_mem_singleton.mpr (hdrop "users"))
  · refine keeps_steps fun c hc => ?_
    obtain ⟨name, -, rfl⟩ := List.mem_map.mp hc
    exact hdrop name
  · exact keeps_steps
      (List.forall_mem_cons.mpr ⟨keeps_define, List.forall_mem_singleton.mpr keeps_define⟩)

theorem migrate_keeps (hP : Lasting P) (second : Int) (db : Database) (h : P db.rows) :
    P (migrate second db).2.rows := by
  have hprepared : P (Migration.prepare.run db).2.rows := (keeps_define.mapError _).run db h
  unfold migrate
  split
  · rename_i e after hrun
    rw [hrun] at hprepared
    exact hprepared
  · rename_i after hrun
    rw [hrun] at hprepared
    exact Migration.upAll_keeps hP (fun m hm => keeps_up hm) hprepared

end Layout

end Gatehouse.Database
