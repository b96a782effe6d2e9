import Gatehouse.Database.Disk
import Gatehouse.Proofs.Database.Migration
import Gatehouse.Proofs.Database.Standing

/-! Users who stay. Whoever has been added is found under the username, with the id and the hash of
the beginning, until a call deletes the user or puts another hash: no other call touches the user,
and neither do migrations that go up. -/
namespace Gatehouse.Database

open Change (run_eq_ok)

variable {db made : Database} {user : User} {deeds : List Deed}

/-! ## Users of a history -/

/-- The users are those of some history. -/
def Rows.IsHistoric (r : Rows) : Prop := ∃ deeds, Enrolled deeds r.users

theorem Rows.isHistoric_empty : Rows.empty.IsHistoric := ⟨[], enrolled_empty⟩

theorem Rows.IsHistoric.lasting : Migration.Lasting Rows.IsHistoric where
  clear r table h := by
    unfold Rows.clear
    split
    · exact ⟨[], enrolled_empty⟩
    all_goals exact h
  record r applied h := h

theorem isHistoric_createUser (h : db.rows.IsHistoric) (u : NewUser) (second : Int) :
    ((Accounts.createUser u second).run db).2.rows.IsHistoric := by
  unfold Change.run
  split
  · rename_i added after hrun
    obtain ⟨rows, heffect, rfl⟩ := effect_createUser hrun
    obtain ⟨deeds, henrolled⟩ := h
    exact ⟨deeds ++ [.created added], enrolled_effect henrolled heffect⟩
  · exact h

theorem History.isHistoric_after {h : History} (hrows : h.database.rows.IsHistoric)
    (calls : List Call) : (h.after calls).database.rows.IsHistoric := by
  refine after_induction (P := fun h => h.database.rows.IsHistoric) hrows ?_ calls
  rintro h deed rows ⟨deeds, henrolled⟩ heffect
  exact ⟨deeds ++ [deed], enrolled_effect henrolled heffect⟩

/-! ## A user who is there -/

/-- A user whom the database holds just so, and who can be looked up in it. -/
structure Seats (db : Database) (user : User) : Prop where
  isOpen : db.closed = false
  isFull : db.schema.isFull "users" = true
  stands : ∃ deeds, Enrolled deeds db.rows.users ∧ standing deeds user.id = some user

theorem Seats.byUsername (h : db.Seats user) :
    db.directory.byUsername user.username = .ok (some user) := by
  obtain ⟨deeds, henrolled, hstands⟩ := h.stands
  have husers : db.schema.resolve ["users"] [("users", "username")] = .ok () :=
    Schema.resolve_of_isFull h.isFull "username"
  refine (answer_of_run db (run_mapError (run_query h.isOpen husers))).trans (congrArg _ ?_)
  exact henrolled.find?_username.mpr ⟨hstands, rfl⟩

theorem Schema.isFull_of_resolveInsert {s : Schema} {table column : String}
    (h : s.resolveInsert table column = .ok ()) : s.isFull table = true := by
  obtain ⟨_, -, hcolumn⟩ := ok_of_bind h
  by_contra hfull
  rw [if_neg hfull] at hcolumn
  contradiction

/-- Whoever is added is there from then on, as described. -/
theorem seats_of_createUser {u : NewUser} {second : Int} (hrows : db.rows.IsHistoric)
    (h : StateT.run (Accounts.createUser u second) db = .ok (user, made)) :
    made.Seats user ∧ user.username = u.username ∧ user.passwordHash = u.passwordHash := by
  obtain ⟨rows, heffect, rfl⟩ := effect_createUser h
  unfold Accounts.createUser Accounts.insertUser at h
  have hinsert := run_eq_ok h
  have hopen : db.closed = false := isOpen_of_statement hinsert
  have hfull := Schema.isFull_of_resolveInsert (resolved_of_statement hinsert)
  refine ⟨⟨hopen, hfull, ?_⟩, ?_⟩
  · obtain ⟨deeds, henrolled⟩ := hrows
    refine ⟨deeds ++ [.created user], enrolled_effect henrolled heffect, ?_⟩
    rw [standing_concat, Deed.upon, if_pos rfl]
  · obtain ⟨_, hbody, -⟩ := ok_of_update hinsert
    obtain ⟨-, rfl, -, -⟩ := ok_of_addition (fun users => { db.rows with users }) hbody
    exact ⟨rfl, rfl⟩

/-! ## Calls -/

/-- Whether nobody has deleted the user of an id or put another hash. -/
def Spared (deeds : List Deed) (id : UserId) : Prop :=
  .deleted id ∉ deeds ∧ ∀ hash second, .updated id hash second ∉ deeds

theorem spared_nil (id : UserId) : Spared [] id := ⟨List.not_mem_nil, fun _ _ => List.not_mem_nil⟩

theorem spared_append {later : List Deed} {id : UserId} :
    Spared (deeds ++ later) id ↔ Spared deeds id ∧ Spared later id := by
  simp only [Spared, List.mem_append, not_or, forall_and]
  exact and_and_and_comm

/-- What is done to others leaves the holder of an id. -/
theorem Deed.upon_of_spared {deed : Deed} {id : UserId} (h : Spared [deed] id)
    (hnew : ∀ user, deed = .created user → user.id ≠ id) (holder : Option User) :
    deed.upon id holder = holder := by
  cases deed with
  | created user => exact if_neg (hnew user rfl)
  | updated other hash second =>
    refine if_neg fun hid => h.2 hash second ?_
    rw [hid]
    exact List.mem_singleton_self _
  | deleted other =>
    refine if_neg fun hid => h.1 ?_
    rw [hid]
    exact List.mem_singleton_self _
  | roleMade | granted | assigned => rfl

theorem Seats.effect {rows : Rows} {deed : Deed} (h : db.Seats user)
    (heffect : Effect db.rows deed rows) (hspared : Spared [deed] user.id) :
    Seats { db with rows } user := by
  obtain ⟨deeds, henrolled, hstands⟩ := h.stands
  refine ⟨h.isOpen, h.isFull, deeds ++ [deed], enrolled_effect henrolled heffect, ?_⟩
  rw [standing_concat, Deed.upon_of_spared hspared, hstands]
  -- A new user gets a number above that of every user who is there.
  rintro other rfl hid
  cases heffect with
  | created _ hroom hnumber hfree =>
    have hrow := henrolled.current user.id
    rw [hstands, ← hid] at hrow
    have hle := (henrolled.within.number _ _ hrow).2
    omega

theorem Seats.createUser (h : db.Seats user) (u : NewUser) (second : Int) :
    ((Accounts.createUser u second).run db).2.Seats user := by
  unfold Change.run
  split
  · rename_i added after hrun
    obtain ⟨rows, heffect, rfl⟩ := effect_createUser hrun
    exact h.effect heffect ⟨by simp, by simp⟩
  · exact h

theorem Seats.after {h : History} {calls : List Call} (hseats : h.database.Seats user)
    (hspared : Spared (h.after calls).deeds user.id) : (h.after calls).database.Seats user := by
  refine History.after_induction (P := fun h => Spared h.deeds user.id → h.database.Seats user)
    (fun _ => hseats) (fun h deed rows ih heffect hspared => ?_) calls hspared
  obtain ⟨hbefore, hdeed⟩ := spared_append.mp hspared
  exact (ih hbefore).effect heffect hdeed

/-! ## Migrations -/

theorem Seats.define {body : Schema → Except Fault Schema} {answer : Unit} (h : db.Seats user)
    (hbody : Schema.Spares "users" body)
    (hrun : StateT.run (define body) db = .ok (answer, made)) : made.Seats user := by
  obtain ⟨schema, hmade, rfl⟩ := ok_of_define hrun
  exact ⟨h.isOpen, hbody _ _ hmade h.isFull, h.stands⟩

namespace Layout

theorem seats_steps {bodies : List (Schema → Except Fault Schema)} {answer : Unit}
    (hbodies : ∀ body ∈ bodies, Schema.Spares "users" body) (h : db.Seats user)
    (hrun : StateT.run (steps (bodies.map define)) db = .ok (answer, made)) :
    made.Seats user := by
  induction bodies generalizing db with
  | nil =>
    cases hrun
    exact h
  | cons body bodies ih =>
    obtain ⟨hbody, hrest⟩ := List.forall_mem_cons.mp hbodies
    obtain ⟨_, middle, hfirst, hlast⟩ := ok_of_run_bind hrun
    exact ih hrest (h.define hbody (run_eq_ok hfirst)) hlast

/-- A built-in migration makes tables and indexes as it goes up, and drops none. -/
theorem exists_up_eq {m : Migration} (hm : m ∈ all) :
    ∃ bodies : List (Schema → Except Fault Schema), m.up = steps (bodies.map define) ∧
      ∀ body ∈ bodies, Schema.Spares "users" body := by
  simp only [all, List.mem_cons, List.not_mem_nil, or_false] at hm
  rcases hm with rfl | rfl | rfl
  · exact ⟨makeUsers, rfl, List.forall_mem_singleton.mpr (Schema.spares_createTable _ _)⟩
  · refine ⟨makeAccess, rfl, fun body hbody => ?_⟩
    obtain ⟨name, -, rfl⟩ := List.mem_map.mp hbody
    exact Schema.spares_createTable _ _
  · exact ⟨makeIndexes, rfl, List.forall_mem_cons.mpr ⟨Schema.spares_ensureIndex _ _ _,
      List.forall_mem_singleton.mpr (Schema.spares_ensureIndex _ _ _)⟩⟩

theorem seats_applyOnce {m : Migration} (hm : m ∈ all) {second : Int} (h : db.Seats user)
    (hrun : StateT.run (m.applyOnce second) db = .ok ((), made)) : made.Seats user := by
  obtain ⟨isApplied, middle, hquery, hrest⟩ := ok_of_run_bind hrun
  cases body_of_statement (run_eq_ok hquery)
  split at hrest
  · obtain ⟨bodies, hup, hbodies⟩ := exists_up_eq hm
    obtain ⟨_, grown, hgrown, hrecord⟩ := ok_of_run_bind hrest
    rw [hup] at hgrown
    have hseats : grown.Seats user := seats_steps hbodies h hgrown
    obtain ⟨rows, hrows, rfl⟩ := ok_of_update (run_eq_ok hrecord)
    cases hrows
    exact ⟨hseats.isOpen, hseats.isFull, hseats.stands⟩
  · cases hrest
    exact h

theorem seats_migrate (second : Int) (h : db.Seats user) : (migrate second db).2.Seats user := by
  have hprepared : (Migration.prepare.run db).2.Seats user := by
    unfold Change.run
    split
    · rename_i hrun
      exact h.define (Schema.spares_createTable _ _) (run_eq_ok hrun)
    · exact h
  unfold migrate
  split
  · rename_i hrun
    rw [hrun] at hprepared
    exact hprepared
  · rename_i middle hrun
    rw [hrun] at hprepared
    rw [upAll_of_ok checkVersions_all]
    apply Migration.Way.runAll_induction (I := (Seats · user)) _ hprepared
    intro change hchange before last hbefore hlast
    obtain ⟨m, hm, rfl⟩ := List.mem_map.mp hchange
    exact seats_applyOnce hm hbefore hlast

end Layout

theorem Seats.reopened (h : db.Seats user) (barrier : Option Fault) :
    Seats { db with barrier } user := ⟨h.isOpen, h.isFull, h.stands⟩

/-! ## Databases in files -/

namespace Disk

/-- What a file holds; there is nothing in a file that is missing, nor in a new memory. -/
def content (d : Disk) (path : Option Path) : Database :=
  (path.bind fun path => d.files.lookup path).getD .empty

variable {d : Disk} {path : Option Path}

theorem lookup_filter_ne {files : List (Path × Database)} {path other : Path} (h : path ≠ other) :
    (files.filter (·.1 ≠ path)).lookup other = files.lookup other := by
  induction files with
  | nil => rfl
  | cons file files ih =>
    obtain ⟨name, db⟩ := file
    by_cases hname : name = path
    · subst hname
      rw [List.filter_cons_of_neg (by simp), ih, List.lookup_cons, beq_false_of_ne (Ne.symm h)]
    · rw [List.filter_cons_of_pos (by simp [hname]), List.lookup_cons, List.lookup_cons, ih]

theorem content_save (d : Disk) (path : Path) (db : Database) (other : Path) :
    (d.save (some path) db).content (some other) =
      if path = other then { db with closed := false, barrier := none }
      else d.content (some other) := by
  change Option.getD (List.lookup other ((path, _) :: d.files.filter (·.1 ≠ path))) .empty = _
  split
  · rename_i hsame
    rw [hsame, List.lookup_cons_self]
    rfl
  · rename_i hother
    rw [List.lookup_cons, beq_false_of_ne (Ne.symm hother), lookup_filter_ne hother]
    rfl

/-- A database is opened just as its file holds it, though perhaps not to be changed. -/
theorem content_of_openTarget {t : Target} (h : d.openTarget t = .ok (path, db)) :
    ∃ barrier, db = { d.content path with barrier } := by
  unfold openTarget at h
  split at h
  · cases h
    exact ⟨_, rfl⟩
  split at h
  · contradiction
  · contradiction
  rename_i file _ _
  split at h
  · contradiction
  split at h
  · contradiction
  split at h
  · rename_i held hfile
    cases h
    refine ⟨barrier t file, ?_⟩
    rw [content, Option.bind_some, hfile]
    rfl
  · rename_i hmissing
    split at h
    · cases h
      refine ⟨barrier t file, ?_⟩
      rw [content, Option.bind_some, hmissing]
      rfl
    · contradiction

theorem content_of_connect {url : String}
    (h : Location.parse url >>= d.connect = .ok (path, db)) :
    ∃ barrier, db = { d.content path with barrier } := by
  obtain ⟨l, -, hconnect⟩ := ok_of_bind h
  obtain ⟨t, -, hopened⟩ := ok_of_bind hconnect
  exact content_of_openTarget hopened

/-- A file that is there can be opened, unless its path is too long. -/
theorem openTarget_of_lookup {t : Target} {text : String} {file : Path} (htext : t.path = some text)
    (hfile : d.resolve? text = some file) (hne : file ≠ [])
    (hsize : file.size + Path.journal.utf8ByteSize ≤ Path.longest + 1)
    (hplain : file ∉ d.directories) (hheld : d.files.lookup file = some db) :
    d.openTarget t = .ok (some file, { db with barrier := barrier t file }) := by
  cases file with
  | nil => exact absurd rfl hne
  | cons name names =>
    have hcontains : ¬d.directories.contains (name :: names) = true := by
      rwa [List.contains_iff_mem]
    unfold openTarget
    simp only [htext, hfile, hheld, if_neg hcontains, if_neg (Nat.not_lt.mpr hsize)]

/-- The users of every database on the disk are those of some history. -/
def IsHistoric (d : Disk) : Prop := ∀ file, (d.content (some file)).rows.IsHistoric

theorem isHistoric_of_bare (h : d.files = []) : d.IsHistoric := by
  intro file
  unfold content
  rw [h]
  exact Rows.isHistoric_empty

end Disk

end Gatehouse.Database
