import Gatehouse.Command.Run
import Gatehouse.Proofs.Database.Keeping
import Gatehouse.Proofs.Database.Outcome
import Gatehouse.Proofs.Password
import Gatehouse.Proofs.Service.Admission

/-! Users who are added from the command line. They can log in from then on, whatever else is done
on the disk, as long as nobody deletes them or puts another hash; and no name or password is taken
here that a login would call malformed. -/
namespace Gatehouse.Command

open Database (Accounts.createUser Call Deed Disk Fault History Layout.migrate Location NewUser Path
  Spared)
open Service (Admits State Settings Surroundings)

section

variable {disk : Disk} {file : Path} {user : User}

/-! ## Jobs -/

/-- A property of databases that no job takes away, and that does not depend on how a database was
opened last. -/
structure Enduring (P : Database → Prop) : Prop where
  barred (db : Database) (barrier : Option Fault) (h : P db) : P { db with barrier }
  closed (db : Database) (h : P db) : P { db with closed := false }
  migrate (db : Database) (second : Int) (h : P db) : P (Layout.migrate second db).2
  createUser (db : Database) (u : NewUser) (second : Int) (h : P db) :
    P ((Accounts.createUser u second).run db).2

variable {P : Database → Prop}

theorem Enduring.content_save_self (hP : Enduring P) {db : Database} (h : P db) :
    P ((disk.save (some file) db).content (some file)) := by
  rw [Disk.content_save, if_pos rfl]
  exact hP.barred _ none (hP.closed db h)

theorem Enduring.content_save (hP : Enduring P) {path : Option Path} {db : Database}
    (hdb : path = some file → P db) (h : P (disk.content (some file))) :
    P ((disk.save path db).content (some file)) := by
  cases path with
  | none => exact h
  | some path =>
    by_cases hfile : path = file
    · subst hfile
      exact hP.content_save_self (hdb rfl)
    · rw [Disk.content_save, if_neg hfile]
      exact h

theorem Enduring.of_connect (hP : Enduring P) {url : String} {path : Option Path} {db : Database}
    (h : P (disk.content path)) (hconnect : Location.parse url >>= disk.connect = .ok (path, db)) :
    P db := by
  obtain ⟨barrier, rfl⟩ := Disk.content_of_connect hconnect
  exact hP.barred _ barrier h

theorem Enduring.withDatabase (hP : Enduring P) {url : String}
    {use : Database → Outcome × Database} (huse : ∀ db, P db → P (use db).2)
    (h : P (disk.content (some file))) :
    P ((withDatabase disk url use).2.content (some file)) := by
  unfold Command.withDatabase
  split
  · exact h
  · rename_i path db hconnect
    refine hP.content_save (fun hpath => huse db ?_) h
    subst hpath
    exact hP.of_connect h hconnect

theorem Enduring.perform (hP : Enduring P) (i : Invocation) (second : Int) (salt : Bytes)
    (h : P (disk.content (some file))) :
    P ((perform i disk second salt).2.content (some file)) := by
  unfold Command.perform
  split
  · exact h
  · exact h
  · exact hP.withDatabase (fun db hdb => hP.migrate db second hdb) h
  · split
    · exact h
    · exact hP.withDatabase (fun db hdb => hP.createUser db _ second hdb) h

theorem enduring_isHistoric : Enduring fun db => db.rows.IsHistoric where
  barred _ _ h := h
  closed _ h := h
  migrate db second h := Database.Layout.migrate_keeps Database.Rows.IsHistoric.lasting second db h
  createUser _ u second h := Database.isHistoric_createUser h u second

theorem enduring_seats (user : User) : Enduring (Database.Seats · user) where
  barred _ barrier h := h.reopened barrier
  closed _ h := ⟨rfl, h.isFull, h.stands⟩
  migrate _ second h := Database.Layout.seats_migrate second h
  createUser _ u second h := h.createUser u second

/-! ## What is done on a disk -/

/-- A job of the command line, or calls to a database between its opening and its closing. -/
inductive Use where
  | command (i : Invocation) (second : Int) (salt : Bytes)
  | session (url : String) (calls : List Call)

/-- A disk, and what calls have achieved in one of its files so far. -/
structure Course where
  disk : Disk
  deeds : List Deed

namespace Course

def next (file : Path) (c : Course) : Use → Course
  | .command i second salt => { c with disk := (perform i c.disk second salt).2 }
  | .session url calls =>
    match Location.parse url >>= c.disk.connect with
    | .error _ => c
    | .ok (path, db) =>
      let history := History.after ⟨[], db⟩ calls
      { disk := c.disk.save path history.database
        deeds := if path = some file then c.deeds ++ history.deeds else c.deeds }

def after (file : Path) (c : Course) (uses : List Use) : Course := uses.foldl (next file) c

variable {c : Course}

/-- A session fails to open its database, or its calls are made and saved. -/
theorem next_session (c : Course) (file : Path) (url : String) (calls : List Call) :
    c.next file (.session url calls) = c ∨ ∃ path db,
      Location.parse url >>= c.disk.connect = .ok (path, db) ∧
      c.next file (.session url calls) = {
        disk := c.disk.save path (History.after ⟨[], db⟩ calls).database
        deeds := if path = some file then c.deeds ++ (History.after ⟨[], db⟩ calls).deeds
          else c.deeds } := by
  unfold next
  dsimp only
  cases hconnect : Location.parse url >>= c.disk.connect with
  | error fault => exact .inl rfl
  | ok opened => exact .inr ⟨opened.1, opened.2, rfl, rfl⟩

theorem isHistoric_next (h : c.disk.IsHistoric) (file : Path) (use : Use) :
    (c.next file use).disk.IsHistoric := by
  intro other
  cases use with
  | command i second salt => exact enduring_isHistoric.perform i second salt (h other)
  | session url calls =>
    obtain hnext | ⟨path, db, hconnect, hnext⟩ := c.next_session file url calls
    · rw [hnext]
      exact h other
    · rw [hnext]
      refine enduring_isHistoric.content_save (fun hpath => ?_) (h other)
      subst hpath
      exact History.isHistoric_after (enduring_isHistoric.of_connect (h other) hconnect) calls

/-- Whatever is done on a disk, the users of its databases are added and changed by calls only. -/
theorem isHistoric_after (h : c.disk.IsHistoric) (file : Path) (uses : List Use) :
    (c.after file uses).disk.IsHistoric := by
  induction uses generalizing c with
  | nil => exact h
  | cons use uses ih => exact ih (isHistoric_next h file use)

theorem spared_of_next {use : Use} {id : UserId} (h : Spared (c.next file use).deeds id) :
    Spared c.deeds id := by
  cases use with
  | command i second salt => exact h
  | session url calls =>
    obtain hnext | ⟨path, db, hconnect, hnext⟩ := c.next_session file url calls
    · rwa [hnext] at h
    · rw [hnext] at h
      dsimp only at h
      split at h
      · exact (Database.spared_append.mp h).1
      · exact h

theorem spared_of_after {uses : List Use} {id : UserId} (h : Spared (c.after file uses).deeds id) :
    Spared c.deeds id := by
  induction uses generalizing c with
  | nil => exact h
  | cons use uses ih => exact spared_of_next (ih h)

theorem seats_next {use : Use} (h : (c.disk.content (some file)).Seats user)
    (hspared : Spared (c.next file use).deeds user.id) :
    ((c.next file use).disk.content (some file)).Seats user := by
  cases use with
  | command i second salt => exact (enduring_seats user).perform i second salt h
  | session url calls =>
    obtain hnext | ⟨path, db, hconnect, hnext⟩ := c.next_session file url calls
    · rwa [hnext]
    · rw [hnext] at hspared ⊢
      refine (enduring_seats user).content_save (fun hpath => ?_) h
      -- Only calls in the user's own file count against the user.
      subst hpath
      rw [if_pos rfl] at hspared
      exact ((enduring_seats user).of_connect h hconnect).after
        (Database.spared_append.mp hspared).2

/-- A user is there after all uses if no call has deleted the user or put another hash. -/
theorem seats_after {uses : List Use} (h : (c.disk.content (some file)).Seats user)
    (hspared : Spared (c.after file uses).deeds user.id) :
    ((c.after file uses).disk.content (some file)).Seats user := by
  induction uses generalizing c with
  | nil => exact h
  | cons use uses ih => exact ih (seats_next h (spared_of_after hspared)) hspared

end Course

/-! ## Adding a user -/

/-- A login makes the same checks. -/
theorem sanitize_eq (username password : String) :
    LoginRequest.sanitize ⟨username, password⟩ =
      (checkSeed username password).map fun name => ⟨name, password⟩ := by
  unfold LoginRequest.sanitize checkSeed
  cases checkUsername username with
  | error e => rfl
  | ok name => cases checkPassword password <;> rfl

theorem sanitize_of_checkSeed {username password name : String}
    (h : checkSeed username password = .ok name) :
    LoginRequest.sanitize ⟨username, password⟩ = .ok ⟨name, password⟩ := by
  rw [sanitize_eq, h]
  rfl

theorem username_of_checkSeed {username password name : String}
    (h : checkSeed username password = .ok name) : name = Text.trim username := by
  have hlogin := sanitize_of_checkSeed h
  exact Service.username_of_sanitize hlogin

theorem checkSeed_eq_error {username password : String} {e : ValidationError}
    (h : LoginRequest.sanitize ⟨username, password⟩ = .error e) :
    checkSeed username password = .error e := by
  rw [sanitize_eq] at h
  cases hchecked : checkSeed username password with
  | error e' =>
    rw [hchecked] at h
    exact congrArg _ (Except.error.inj h)
  | ok name =>
    rw [hchecked] at h
    contradiction

theorem Outcome.code_failed_ne (reason : String) : (failed reason).code ≠ 0 := Nat.one_ne_zero

theorem ok_of_withDatabase {url : String} {use : Database → Outcome × Database}
    (h : (withDatabase disk url use).1.code = 0) :
    ∃ path db, Location.parse url >>= disk.connect = .ok (path, db) ∧
      withDatabase disk url use = ((use db).1, disk.save path (use db).2) := by
  unfold withDatabase at h ⊢
  split at h
  · exact absurd h (Outcome.code_failed_ne _)
  · rename_i path db hconnect
    exact ⟨path, db, hconnect, rfl⟩

/-- A user with some name and hash has been put into the database in a file. -/
structure Seeds (disk : Disk) (url name hash : String) (result : Outcome × Disk) (file : Path)
    (user : User) : Prop where
  outcome : result.1 = .success (.user user)
  opened : ∃ db, Location.parse url >>= disk.connect = .ok (some file, db)
  username : user.username = name
  passwordHash : user.passwordHash = hash
  seats : (result.2.content (some file)).Seats user

/-- Only a file that is there can have a table of users. -/
theorem exists_file_of_createUser {url : String} {path : Option Path} {db made : Database}
    {u : NewUser} {second : Int} (hdisk : disk.IsHistoric)
    (hconnect : Location.parse url >>= disk.connect = .ok (path, db))
    (h : StateT.run (Accounts.createUser u second) db = .ok (user, made)) :
    ∃ file, path = some file ∧ made.Seats user ∧ user.username = u.username ∧
      user.passwordHash = u.passwordHash := by
  cases path with
  | none =>
    obtain ⟨barrier, rfl⟩ := Disk.content_of_connect hconnect
    obtain ⟨hseats, -⟩ := Database.seats_of_createUser Database.Rows.isHistoric_empty h
    obtain ⟨rows, -, rfl⟩ := Database.effect_createUser h
    exact nomatch (hseats.isFull : Database.Schema.empty.isFull "users" = true)
  | some file =>
    have hrows : db.rows.IsHistoric := enduring_isHistoric.of_connect (hdisk file) hconnect
    obtain ⟨hseats, hname, hhash⟩ := Database.seats_of_createUser hrows h
    exact ⟨file, rfl, hseats, hname, hhash⟩

theorem perform_of_createUser {url username password name fullname email : String} {second : Int}
    {salt : Bytes} {path : Option Path} {db made : Database}
    (hchecked : checkSeed username password = .ok name)
    (hconnect : Location.parse url >>= disk.connect = .ok (path, db))
    (h : StateT.run (Accounts.createUser ⟨name, Password.hash salt password, fullname, email⟩ second)
      db = .ok (user, made)) :
    perform ⟨url, .seedUser username password fullname email⟩ disk second salt =
      (.success (.user user), disk.save path made) := by
  unfold perform
  simp only [hchecked, withDatabase, hconnect, Database.Change.run, h]
  rfl

/-- A job that succeeds in adding a user has put the user into a file. -/
theorem exists_seeds {url username password fullname email : String} {second : Int} {salt : Bytes}
    (hdisk : disk.IsHistoric)
    (h : (perform ⟨url, .seedUser username password fullname email⟩ disk second salt).1.code = 0) :
    ∃ name user file, checkSeed username password = .ok name ∧
      Seeds disk url name (Password.hash salt password)
        (perform ⟨url, .seedUser username password fullname email⟩ disk second salt) file user := by
  unfold perform at h
  cases hchecked : checkSeed username password with
  | error e =>
    simp only [hchecked] at h
    exact absurd h (Outcome.code_failed_ne _)
  | ok name =>
    simp only [hchecked] at h
    obtain ⟨path, db, hconnect, hdone⟩ := ok_of_withDatabase h
    rw [hdone] at h
    rcases hrun : StateT.run (Accounts.createUser
      ⟨name, Password.hash salt password, fullname, email⟩ second) db with e | ⟨user, made⟩
    · rw [Database.Change.run, hrun] at h
      exact absurd h (Outcome.code_failed_ne _)
    · obtain ⟨file, rfl, hseats, husername, hstored⟩ :=
        exists_file_of_createUser hdisk hconnect hrun
      rw [perform_of_createUser hchecked hconnect hrun]
      exact ⟨name, user, file, rfl, rfl, ⟨db, hconnect⟩, husername, hstored,
        (enduring_seats user).content_save_self hseats⟩

/-- The name and the password that a user was added with let the user in, through any opening of the
file and whatever was done before, as long as no call took the user or the hash away. -/
theorem Seeds.admits {url address username password name : String} {salt : Bytes}
    {result : Outcome × Disk} {db : Database}
    (h : Seeds disk url name (Password.hash salt password) result file user)
    (hchecked : checkSeed username password = .ok name) (hsalt : salt.length = Password.saltLength)
    (later : List Use) (calls : List Call)
    (hconnect : Location.parse address >>= (Course.after file ⟨result.2, []⟩ later).disk.connect =
      .ok (some file, db))
    (hspared : Spared ((Course.after file ⟨result.2, []⟩ later).deeds ++
      (History.after ⟨[], db⟩ calls).deeds) user.id) :
    Admits (History.after ⟨[], db⟩ calls).database.directory username password user := by
  obtain ⟨hbefore, hwithin⟩ := Database.spared_append.mp hspared
  have hcourse := Course.seats_after h.seats hbefore
  have hopened : db.Seats user := (enduring_seats user).of_connect hcourse hconnect
  have hsession : (History.after ⟨[], db⟩ calls).database.Seats user := hopened.after hwithin
  refine Service.admits_of_byUsername (sanitize_of_checkSeed hchecked) ?_ ?_
  · rw [← h.username]
    exact hsession.byUsername
  · rw [h.passwordHash]
    exact Password.verify_hash password hsalt

/-- What makes a login malformed makes the job fail before it opens any database. -/
theorem perform_of_malformed {request : LoginRequest} {e : ValidationError}
    (h : request.sanitize = .error e) (url fullname email : String) (disk : Disk) (second : Int)
    (salt : Bytes) :
    perform ⟨url, .seedUser request.username request.password fullname email⟩ disk second salt =
      (.failed e.message, disk) := by
  obtain ⟨username, password⟩ := request
  have hchecked := checkSeed_eq_error h
  unfold perform
  simp only [hchecked]

end

/-- A user who was added from the command line can log in: with the same password and the same name
but for blanks around it, at any time and through any opening of the file, as long as no call in
between has deleted the user or put another hash, and unless the name is locked or the origin
blocked. The answer is the very user that was printed. And a name or a password that makes a login
malformed makes the job fail in the same way, whatever the disk is like and wherever the database is
said to be, so before there is any need to open it. -/
theorem admits_after_seed :
    (∀ (disk : Disk) (url username password fullname email : String) (second : Int) (salt : Bytes),
      disk.IsHistoric → salt.length = Password.saltLength →
      let seeded := perform ⟨url, .seedUser username password fullname email⟩ disk second salt
      seeded.1.code = 0 →
      ∃ user file, seeded.1 = .success (.user user) ∧ user.username = Text.trim username ∧
        (∃ db, Location.parse url >>= disk.connect = .ok (some file, db)) ∧
        ∀ (later : List Use) (address : String) (db : Database) (calls : List Call),
          let course := Course.after file ⟨seeded.2, []⟩ later
          Location.parse address >>= course.disk.connect = .ok (some file, db) →
          let session := History.after ⟨[], db⟩ calls
          Spared (course.deeds ++ session.deeds) user.id →
          Admits session.database.directory username password user) ∧
    ∀ (s : State) (settings : Settings) (around : Surroundings) (request : LoginRequest)
      (origin : String) (db : Database) (e : ValidationError),
      around.directory = db.directory → around.verifier = Password.verify →
      (s.login settings around request origin).1.answer = .error (.error (.validation e)) →
      ∀ (url fullname email : String) (disk : Disk) (second : Int) (salt : Bytes),
        perform ⟨url, .seedUser request.username request.password fullname email⟩ disk second salt =
          (.failed e.message, disk) := by
  constructor
  · intro disk url username password fullname email second salt hdisk hsalt seeded hcode
    subst seeded
    obtain ⟨name, user, file, hchecked, hseeds⟩ := exists_seeds hdisk hcode
    have hname : name = Text.trim username := username_of_checkSeed hchecked
    exact ⟨user, file, hseeds.outcome, hseeds.username.trans hname, hseeds.opened,
      fun later _ _ calls hconnect hspared =>
        hseeds.admits hchecked hsalt later calls hconnect hspared⟩
  · intro s settings around request origin db e hdirectory hverifier hlogin
    exact perform_of_malformed (Service.sanitize_of_login hdirectory hverifier hlogin)

/-! ## A sample disk -/

namespace Sample

open Service.Sample (origin settings start)

def file : Path := ["srv", "users.db"]

def url : String := "sqlite:///srv/users.db"

/-- A disk with one database. -/
def diskWith (db : Database) : Disk := ⟨["srv"], [[], ["srv"]], [(file, db)]⟩

theorem isHistoric_diskWith {db : Database} (h : db.rows.IsHistoric) :
    (diskWith db).IsHistoric := by
  intro other
  by_cases hfile : other = file
  · subst hfile
    exact h
  · have hmissing : (diskWith db).files.lookup other = none := by
      change [(file, db)].lookup other = none
      rw [List.lookup_cons, beq_false_of_ne hfile]
      rfl
    change ((diskWith db).files.lookup other |>.getD .empty).rows.IsHistoric
    rw [hmissing]
    exact Database.Rows.isHistoric_empty

def target : Database.Target := ⟨some "/srv/users.db", false, false, false⟩

theorem target_url : Location.parse url >>= Location.target = .ok target := by
  have hparse : Location.parse url = .ok (.ofName "/srv/users.db") := by decide +kernel
  have hname : (Location.ofName "/srv/users.db").readName = .ok (.ofName "/srv/users.db") := by
    simp [Location.readName, Location.ofName]
  rw [hparse]
  change (Location.ofName "/srv/users.db").target = _
  unfold Location.target
  rw [hname]
  decide +kernel

theorem connect_diskWith (db : Database) :
    Location.parse url >>= (diskWith db).connect = .ok (some file, { db with barrier := none }) := by
  have hresolve : (diskWith db).resolve? "/srv/users.db" = some file := by
    have hempty : (diskWith .empty).resolve? "/srv/users.db" = some file := by decide +kernel
    exact hempty
  have hplain : file ∉ (diskWith .empty).directories := by decide
  have hbarrier : Disk.barrier target file = none := by decide +kernel
  have hsame : Location.parse url >>= (diskWith db).connect =
      (Location.parse url >>= Location.target) >>= (diskWith db).openTarget := by
    cases Location.parse url <;> rfl
  have hopened : (diskWith db).openTarget target = _ :=
    Disk.openTarget_of_lookup rfl hresolve (by decide) (by decide +kernel) hplain rfl
  rw [hsame, target_url, ← hbarrier]
  exact hopened

theorem save_diskWith (db made : Database) :
    (diskWith db).save (some file) made =
      diskWith { made with closed := false, barrier := none } := by
  simp [Disk.save, diskWith]

def laid : Database := Database.Layout.recorded Database.Layout.allObjects 0 Database.Layout.all

theorem serves_laid : laid.Serves :=
  Database.IsLaid.serves ⟨⟨rfl, rfl⟩, rfl⟩

def salt : Bytes := List.replicate Password.saltLength 7

/-- Nobody has a name yet. -/
theorem createUser_laid (u : NewUser) :
    laid.rows.createUser u 0 = .ok (u.enrolled 0 1,
      { laid.rows with users := laid.rows.users.push (u.enrolled 0 1) }) := by
  have hfree : laid.rows.users.find? (·.username = u.username) = none :=
    Database.Numbered.find?_eq_none_iff.mpr fun n row hrow => by
      simp [laid, Database.Layout.recorded, Database.Rows.empty, Database.Numbered.empty] at hrow
  have hroom : laid.rows.users.last + 1 < Database.Numbered.limit := by decide
  unfold Database.Rows.createUser Database.Numbered.addNew
  rw [hfree, if_pos hroom]
  rfl

theorem exists_seeded : ∃ user made,
    perform ⟨url, .seedUser " alice" "correct horse" "Alice" ""⟩ (diskWith laid) 0 salt =
      (.success (.user user), diskWith made) := by
  have hchecked : checkSeed " alice" "correct horse" = .ok "alice" := by decide +kernel
  have hrun := Database.run_createUser serves_laid
    ⟨"alice", Password.hash salt "correct horse", "Alice", ""⟩ 0
  rw [createUser_laid] at hrun
  rw [perform_of_createUser hchecked (connect_diskWith laid) hrun, save_diskWith]
  exact ⟨_, _, rfl⟩

def around (directory : Directory) : Surroundings :=
  { start.around with directory, verifier := Password.verify }

def refused : ValidationError := .invalidUsername "Username contains invalid characters"

theorem trim_alice : Text.trim " alice" = Service.Sample.request.username := by decide +kernel

theorem login_of_admits {directory : Directory} {user : User}
    (h : Admits directory " alice" "correct horse" user) :
    (start.state.login settings (around directory) ⟨"alice ", "correct horse"⟩ origin).1.answer.map
      LoginResponse.user = .ok user := by
  obtain ⟨block, hblock, hfree⟩ := Service.Sample.blockReading_start
  have hlogin := h start.state settings (around directory) ⟨"alice ", "correct horse"⟩ origin block
    rfl rfl (by decide +kernel) rfl
  rw [trim_alice] at hlogin
  have hcalendar : Service.inCalendar settings start.around.clock = true := by decide
  rw [hlogin Service.Sample.lockReading_start hblock hfree]
  exact if_pos hcalendar

/-- Alice is added with a blank before her name, and logs in with one after it. -/
theorem alice_logsIn : ∃ user,
    (perform ⟨url, .seedUser " alice" "correct horse" "Alice" ""⟩ (diskWith laid) 0 salt).1 =
      .success (.user user) ∧ user.username = "alice" ∧
    (∃ directory, (start.state.login settings (around directory) ⟨"alice ", "correct horse"⟩
      origin).1.answer.map LoginResponse.user = .ok user) ∧
    ∀ disk, perform ⟨"nowhere", .seedUser "al ice" "correct horse" "" ""⟩ disk 0 salt =
      (.failed refused.message, disk) := by
  obtain ⟨user, made, hseeded⟩ := exists_seeded
  have hdisk : (diskWith laid).IsHistoric := isHistoric_diskWith ⟨[], Database.enrolled_empty⟩
  obtain ⟨other, place, houtcome, hname, ⟨db, hopened⟩, hadmits⟩ := admits_after_seed.1
    (diskWith laid) url " alice" "correct horse" "Alice" "" 0 salt hdisk rfl (by rw [hseeded]; rfl)
  rw [hseeded] at houtcome hadmits
  cases houtcome
  rw [connect_diskWith] at hopened
  cases hopened
  have hadmits := hadmits [] url _ [] (connect_diskWith made) (Database.spared_nil _)
  refine ⟨user, by rw [hseeded], hname.trans trim_alice, ⟨_, login_of_admits hadmits⟩,
    fun disk => ?_⟩
  have hmalformed : LoginRequest.sanitize ⟨"al ice", "correct horse"⟩ = .error refused := by
    decide +kernel
  exact admits_after_seed.2 start.state settings (around laid.directory)
    ⟨"al ice", "correct horse"⟩ origin laid refused rfl rfl
    (by rw [Service.State.login_of_sanitize_error hmalformed]) "nowhere" "" "" disk 0 salt

end Sample

end Gatehouse.Command
