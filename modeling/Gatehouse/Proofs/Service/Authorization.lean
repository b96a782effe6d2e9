import Gatehouse.Proofs.Database.Entitlement
import Gatehouse.Service.Authorization

/-! Authorization over a directory with a history. What is answered depends on nothing but which
roles were made and assigned to the user, and which codes were granted to them. -/
namespace Gatehouse.Service

open Database (Deed History Recorded entitled standing)

/-- The answer that the history of a directory gives. -/
def authority (deeds : List Deed) (id : UserId) (code : String) : Except Error Bool :=
  if id.value = 0 then .error (.auth (.permissionDenied "User id not provided"))
  else
    match standing deeds id with
    | none => .error (.auth .userNotFound)
    | some _ => .ok (entitled deeds id code)

theorem authorize_of_recorded {deeds : List Deed} {db : Database} (hlaid : db.IsLaid)
    (h : Recorded deeds db.rows) (id : UserId) (code : String) :
    authorize db.directory id code = authority deeds id code := by
  unfold authorize authority UserId.isValid
  by_cases hzero : id.value = 0
  · simp [hzero]
  · rw [Database.access_eq hlaid h.enrolled]
    cases hstanding : standing deeds id with
    | none =>
      simp only [hzero, ne_eq, not_false_eq_true, decide_true, if_true, if_false]
      rfl
    | some user =>
      have hgrants := Database.grants_partsOf h (Option.isSome_of_eq_some hstanding) code
      simp only [hzero, ne_eq, not_false_eq_true, decide_true, if_true, if_false, ← hgrants]
      rfl

/-- After any calls on a new directory, of which some may have failed, a user is who was created and
not deleted since, and has the codes of the roles that were assigned to the user, or all codes if
one of these roles gives full access. -/
theorem authorize_after (second : Int) (calls : List Database.Call) (id : UserId) (code : String) :
    let h := (History.start second).after calls
    authorize h.database.directory id code = authority h.deeds id code :=
  authorize_of_recorded (History.isLaid_after (History.isLaid_start second) calls)
    (Database.recorded_after second calls) id code

/-- The second user is an editor, and what is granted to the other role is nothing to the editor. -/
example :
    let h := (History.start 0).after [.createUser ⟨"alice", "", "", ""⟩ 0, .deleteUser ⟨1⟩,
      .createUser ⟨"alice", "", "", ""⟩ 0, .createRole "editor" false, .createRole "owner" false,
      .grant ⟨1⟩ "posts.edit", .grant ⟨2⟩ "posts.delete", .assign ⟨2⟩ ⟨1⟩, .assign ⟨2⟩ ⟨3⟩]
    authorize h.database.directory ⟨1⟩ "posts.edit" = .error (.auth .userNotFound) ∧
      authorize h.database.directory ⟨2⟩ "posts.edit" = .ok true ∧
      authorize h.database.directory ⟨2⟩ "posts.delete" = .ok false := by
  rw [History.start, Database.Layout.migrate_empty]
  decide +kernel

end Gatehouse.Service
