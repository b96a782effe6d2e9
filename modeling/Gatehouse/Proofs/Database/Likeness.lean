import Gatehouse.Proofs.Database.Outcome
import Gatehouse.Proofs.Database.Standing

/-! Databases that cannot be told apart. In a database that serves calls and look-ups, what they
come to depends on the rows alone, so that two of them with the same rows do alike for ever. -/
namespace Gatehouse.Database

variable {db other : Database}

/-! ## Look-ups -/

namespace Change

variable {ε α β : Type}

/-- A change that leaves the database as it is. -/
def Looks (c : Change ε α) : Prop :=
  ∀ (db : Database) (answer : α) (after : Database),
    StateT.run c db = .ok (answer, after) → after = db

theorem looks_pure (answer : α) : Looks (pure answer : Change ε α) := by
  rintro db _ _ ⟨⟩
  rfl

theorem looks_query {resolve : Schema → Except Fault Unit} {answer : Rows → α} (f : Fault → ε) :
    Looks ((query resolve answer).mapError f) := by
  intro db value after hrun
  cases body_of_statement (run_eq_ok hrun)
  rfl

theorem Looks.bind {c : Change ε α} {f : α → Change ε β} (hc : c.Looks)
    (hf : ∀ answer, (f answer).Looks) : Looks (c >>= f) := by
  intro db answer after hrun
  obtain ⟨first, middle, hfirst, hrest⟩ := ok_of_run_bind hrun
  rw [hf first middle answer after hrest, hc db first middle hfirst]

theorem Looks.run {c : Change ε α} (hc : c.Looks) (db : Database) : (c.run db).2 = db := by
  unfold Change.run
  split
  · rename_i answer after hrun
    exact hc db answer after hrun
  · rfl

end Change

open Change (Looks looks_pure looks_query)

theorem looks_findByUsername (username : String) : (Accounts.findByUsername username).Looks :=
  looks_query _

theorem looks_findById (id : UserId) : (Accounts.findById id).Looks := by
  unfold Accounts.findById
  split
  · exact looks_pure none
  · exact looks_query _

theorem looks_findAccess (id : UserId) : (Accounts.findAccess id).Looks := by
  unfold Accounts.findAccess
  split
  · exact looks_pure none
  · refine (looks_query _).bind fun isThere => ?_
    split
    · exact (looks_query _).bind fun _ => (looks_query _).bind fun _ => looks_pure _
    · exact looks_pure none

/-- What a user may do, as it is put together from the rows. -/
def Rows.accessOf (r : Rows) (id : UserId) (n : Nat) : UserAccess :=
  let access := (Accounts.rolesOf r n).foldl (fun access (_, role) => access.withRole role)
    (UserAccess.empty id)
  (Accounts.grantsOf r n).foldl
    (fun access (role, code) => access.withPermission ⟨.ofNat role⟩ code) access

/-- The directory that some rows make up. -/
def Rows.directory (r : Rows) : Directory where
  byUsername username := .ok ((r.users.find? (·.username = username)).map Prod.snd)
  byId id := .ok ((Accounts.rowOf? id).bind (r.users.rows[·]?))
  access id := .ok ((Accounts.rowOf? id).bind fun n =>
    if r.users.rows.contains n then some (r.accessOf id n) else none)

theorem Serves.directory_eq (h : db.Serves) : db.directory = db.rows.directory := by
  have husers : db.schema.resolve ["users"] [] = .ok () := h.resolve (by decide) (by decide)
  have hbyUsername (username : String) :
      db.directory.byUsername username = db.rows.directory.byUsername username := by
    have hnames : db.schema.resolve ["users"] [("users", "username")] = .ok () :=
      h.resolve (by decide) (by decide)
    exact answer_of_run db (run_mapError (run_query h.isOpen hnames))
  have hbyId (id : UserId) : db.directory.byId id = db.rows.directory.byId id := by
    unfold directory Rows.directory Accounts.findById
    dsimp only
    cases Accounts.rowOf? id with
    | none => rfl
    | some n => exact answer_of_run db (run_mapError (run_query h.isOpen husers))
  have haccess (id : UserId) : db.directory.access id = db.rows.directory.access id := by
    have hroles : Accounts.resolveRoles db.schema = .ok () := h.resolve (by decide) (by decide)
    have hgrants : Accounts.resolveGrants db.schema = .ok () := h.resolve (by decide) (by decide)
    unfold directory Rows.directory Accounts.findAccess
    dsimp only
    cases Accounts.rowOf? id with
    | none => rfl
    | some n =>
      refine answer_of_run db ?_
      refine (run_bind (run_mapError (run_query h.isOpen husers))).trans ?_
      dsimp only [Option.bind_some]
      split
      · refine (run_bind (run_mapError (run_query h.isOpen hroles))).trans ?_
        exact run_bind (run_mapError (run_query h.isOpen hgrants))
      · rfl
  exact congr (congr (congrArg Directory.mk (funext hbyUsername)) (funext hbyId)) (funext haccess)

/-! ## Doing alike -/

/-- Two databases that serve calls and have the same rows, which are sound. -/
structure Alike (db other : Database) : Prop where
  serves : db.Serves
  servesToo : other.Serves
  rows_eq : other.rows = db.rows
  sound : Sound db.rows

namespace Alike

theorem directory_eq (h : db.Alike other) : db.directory = other.directory := by
  rw [h.serves.directory_eq, h.servesToo.directory_eq, h.rows_eq]

theorem run (h : db.Alike other) (c : Call) :
    (c.change.run db).1 = (c.change.run other).1 ∧
      (c.change.run db).2.Alike (c.change.run other).2 := by
  have hrun := run_change h.serves h.sound c
  rw [change_run_eq h.serves h.sound, change_run_eq h.servesToo (h.rows_eq ▸ h.sound), h.rows_eq]
  cases houtcome : c.outcome db.rows with
  | error e => exact ⟨rfl, h⟩
  | ok result =>
    obtain ⟨deed, rows⟩ := result
    rw [houtcome] at hrun
    obtain ⟨others, heffect, hsame⟩ := effect_change hrun
    cases congrArg Database.rows hsame
    exact ⟨rfl, ⟨⟨h.serves.isOpen, h.serves.unbarred⟩, h.serves.has⟩,
      ⟨⟨h.servesToo.isOpen, h.servesToo.unbarred⟩, h.servesToo.has⟩, rfl,
      sound_effect h.sound heffect⟩

theorem next {h k : History} (hdeeds : h.deeds = k.deeds) (halike : h.database.Alike k.database)
    (c : Call) : (h.next c).deeds = (k.next c).deeds ∧
      (h.next c).database.Alike (k.next c).database := by
  obtain ⟨hanswer, hafter⟩ := halike.run c
  unfold History.next
  generalize c.change.run h.database = first at hanswer hafter ⊢
  generalize c.change.run k.database = second at hanswer hafter ⊢
  obtain ⟨answer, middle⟩ := first
  obtain ⟨same, after⟩ := second
  cases hanswer
  cases answer with
  | ok deed => exact ⟨congrArg (· ++ [deed]) hdeeds, hafter⟩
  | error e => exact ⟨hdeeds, hafter⟩

theorem after {h k : History} (hdeeds : h.deeds = k.deeds) (halike : h.database.Alike k.database)
    (calls : List Call) : (h.after calls).deeds = (k.after calls).deeds ∧
      (h.after calls).database.Alike (k.after calls).database := by
  induction calls generalizing h k with
  | nil => exact ⟨hdeeds, halike⟩
  | cons c calls ih =>
    obtain ⟨hdeeds, halike⟩ := next hdeeds halike c
    exact ih hdeeds halike

end Alike

end Gatehouse.Database
