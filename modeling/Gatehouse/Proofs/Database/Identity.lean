import Gatehouse.Proofs.Database.History

/-! Who is who in a database. The id of a user is the number of the user's row, whatever was done to
the database before, so users with one id are one user; and a user is found by the username as it is
written, letter for letter. -/
namespace Gatehouse.Database

open Change (Keeps)

/-! ## What is done to a database -/

inductive Operation where
  | migrate (second : Int)
  | revert
  | ensureTable (name : String)
  | dropTable (name : String)
  | call (c : Call)
  /-- The database is closed, or opened again so that it can be changed or not. -/
  | reopen (closed : Bool) (barrier : Option Fault)

/-- The database after an operation, whether that succeeds or fails. -/
def Operation.run (db : Database) : Operation → Database
  | migrate second => (Layout.migrate second db).2
  | revert => (Migration.downAll Layout.all db).2
  | ensureTable name => ((Database.ensureTable name).run db).2
  | dropTable name => ((dropTableIfAny name).run db).2
  | call c => (c.change.run db).2
  | reopen closed barrier => { db with closed, barrier }

/-- A database on which operations have been made one after another, empty at first. -/
def made (operations : List Operation) : Database := operations.foldl Operation.run .empty

/-! ## Ids are the numbers of rows -/

/-- Every user's id is the number of the user's row. -/
def Rows.Identified (r : Rows) : Prop :=
  ∀ (n : Nat) (u : User), r.users.rows[n]? = some u → u.id.value.toNat = n

namespace Rows.Identified

variable {r other : Rows}

theorem empty : Rows.empty.Identified := by
  intro n u h
  simp [Rows.empty, Numbered.empty] at h

theorem congr (h : r.Identified) (hsame : other.users = r.users) : other.Identified := by
  unfold Identified
  rw [hsame]
  exact h

theorem insert (h : r.Identified) {n : Nat} {user : User} {last : Nat}
    (hid : user.id.value.toNat = n) :
    { r with users := ⟨r.users.rows.insert n user, last⟩ }.Identified := by
  intro k u hu
  simp only [Std.ExtTreeMap.getElem?_insert, Std.LawfulEqCmp.compare_eq_iff_eq] at hu
  split at hu
  · rename_i hk
    cases hu
    exact hid.trans hk
  · exact h k u hu

theorem remove (h : r.Identified) (n : Nat) {userRoles : List (Nat × Nat)} :
    { r with users := r.users.remove n, userRoles }.Identified := by
  intro k u hu
  simp only [Numbered.remove, Std.ExtTreeMap.getElem?_erase] at hu
  split at hu
  · contradiction
  · exact h k u hu

theorem lasting : Migration.Lasting Identified where
  clear r table h := by
    have husers : (r.clear table).users = r.users ∨ (r.clear table).users = .empty := by
      unfold Rows.clear
      split
      · exact .inr rfl
      all_goals exact .inl rfl
    rcases husers with hsame | hempty
    · exact h.congr hsame
    · intro n u hu
      rw [hempty] at hu
      simp [Numbered.empty] at hu
  record r applied h := h.congr rfl

end Rows.Identified

open Rows (Identified)

theorem identified_effect {r rows : Rows} {deed : Deed} (h : r.Identified)
    (heffect : Effect r deed rows) : rows.Identified := by
  cases heffect with
  | created user hroom hid hfree => exact h.insert hid
  | updated id hash second user huser => exact h.insert (h _ user huser)
  | deleted id hnumber => exact h.remove _
  | deletedNobody | roleMade | granted | grantedNew | assigned => exact h.congr rfl

theorem keeps_call (c : Call) : Keeps Identified c.change := by
  intro db deed after hrun h
  obtain ⟨rows, heffect, rfl⟩ := effect_change hrun
  exact identified_effect h heffect

theorem identified_run {db : Database} (o : Operation) (h : db.rows.Identified) :
    (o.run db).rows.Identified := by
  -- With the changes named first, unification has no need to run them.
  cases o <;> simp only [Operation.run]
  case migrate second => exact Layout.migrate_keeps Identified.lasting second db h
  case revert =>
    exact Migration.downAll_keeps Identified.lasting
      (fun m hm => Layout.keeps_down Identified.lasting hm) h
  case ensureTable name => exact keeps_define.run db h
  case dropTable name => exact (keeps_drop Identified.lasting.clear _).run db h
  case call c => exact (keeps_call c).run db h
  case reopen closed barrier => exact h

theorem identified_made (operations : List Operation) : (made operations).rows.Identified := by
  have hfold (db : Database) (h : db.rows.Identified) :
      (operations.foldl Operation.run db).rows.Identified := by
    induction operations generalizing db with
    | nil => exact h
    | cons o rest ih => exact ih (o.run db) (identified_run o h)
  exact hfold .empty .empty

/-! ## Looking a user up -/

/-- A user who is found has the username that was asked for, as it was written. -/
theorem username_of_byUsername {db : Database} {username : String} {user : User}
    (h : db.directory.byUsername username = .ok (some user)) :
    user.username = username ∧ ∃ n : Nat, db.rows.users.rows[n]? = some user := by
  obtain ⟨entry, hentry, rfl⟩ := Option.map_eq_some_iff.mp (answer_query h)
  unfold Numbered.find? at hentry
  have hname := List.find?_some hentry
  refine ⟨of_decide_eq_true hname, entry.1, ?_⟩
  exact Std.ExtTreeMap.mem_toList_iff_getElem?_eq_some.mp (List.mem_of_find?_eq_some hentry)

/-- Two usernames of one user, told by the id, are one. -/
theorem eq_of_byUsername (operations : List Operation) {first second : String} {user other : User}
    (huser : (made operations).directory.byUsername first = .ok (some user))
    (hother : (made operations).directory.byUsername second = .ok (some other))
    (hid : user.id = other.id) : first = second := by
  obtain ⟨rfl, n, hn⟩ := username_of_byUsername huser
  obtain ⟨rfl, k, hk⟩ := username_of_byUsername hother
  have hrow : n = k := by
    rw [← identified_made operations n user hn, hid, identified_made operations k other hk]
  rw [hrow, hk] at hn
  cases hn
  rfl

end Gatehouse.Database
