import Gatehouse.Proofs.Guard.Party
import Gatehouse.Proofs.Service.GuardEvents
import Gatehouse.Proofs.Service.Login
import Gatehouse.Proofs.Service.Presented

/-! What the programs of the service do to the names of one party. A program that is about the party
ends the same on stores that agree on the party's keys and leaves such stores; one that is not
leaves the party's keys alone. Whom a token is about is told by the id in its claims, and those do
not depend on the time. -/
namespace Gatehouse

open Counter (Action Key Store)
open Counter.Action (Alike Spares)

/-- Whether a token of a kind has an id of the party. -/
def Party.names (P : Party) (settings : Service.Settings) (kind : Token.Kind) (token : String) :
    Bool :=
  (Service.carried settings kind token).any fun c => P.jti c.jti

namespace Service

/-- The username that a login is for. -/
def loginName (request : LoginRequest) : String :=
  match request.sanitize with
  | .ok r => r.username
  | .error _ => request.username

section

variable {settings : Settings} {P : Party} {around : Surroundings}

/-! ## Programs about the party -/

theorem alike_attempt {request : LoginRequest} {origin : String}
    (huser : P.user (loginName request) = true) (horigin : P.origin origin = true) :
    Alike P.owns Eq (attempt settings around request origin)
      (attempt settings around request origin) := by
  unfold attempt
  unfold loginName at huser
  split
  · exact Action.alike_pure rfl
  · rename_i r hr
    rw [hr] at huser
    refine .bind (Guard.alike_isUserLocked.mono fun _ _ h => h huser).attempt
      fun locked locked' hlocked => ?_
    refine .bind (Guard.alike_originBlock horigin).attempt fun block block' hblock => ?_
    cases hlocked.eq
    cases hblock.eq
    split
    · exact Action.alike_pure rfl
    · exact Action.alike_pure rfl
    · split
      · exact Action.alike_pure rfl
      · exact Action.alike_pure rfl

theorem alike_job (guard : Guard.Config) (job : Bookkeeping) :
    Alike P.owns (fun _ _ => True) (job.run guard) (job.run guard) := by
  cases job with
  | failure username origin =>
    exact .bind Guard.alike_recordFailure fun _ _ _ => Action.alike_pure trivial
  | success username origin =>
    exact .bind Guard.alike_clearOnSuccess.attempt fun _ _ _ => Action.alike_pure trivial

theorem alike_isRevoked {jti : String} (h : P.jti jti = true) :
    Alike P.owns Eq (Revocation.isRevoked jti) (Revocation.isRevoked jti) := by
  unfold Revocation.isRevoked
  split
  · exact Action.alike_pure rfl
  · exact (Action.alike_contains (.revoked jti)).mono fun _ _ hxy => hxy h

theorem alike_revoke (jti : String) (lifetime : Int) :
    Alike P.owns Eq (Revocation.revoke jti lifetime) (Revocation.revoke jti lifetime) := by
  unfold Revocation.revoke
  split
  · exact Action.alike_pure rfl
  · exact (Action.alike_setFlag (.revoked jti) _).mono fun _ _ _ => rfl

/-- Of a token that is verified, the id in the claims tells whether it is the party's. -/
theorem jti_of_verified {kind : Token.Kind} {token : String} {c : Token.Claims}
    (hc : verified settings around kind token = .ok c) :
    P.jti c.jti = P.names settings kind token := by
  obtain ⟨hcarried, -⟩ := verified_eq_ok_iff.mp hc
  rw [Party.names, hcarried, Option.any_some]

theorem alike_accepted {kind : Token.Kind} {token : String}
    (h : P.names settings kind token = true) :
    Alike P.owns Eq (accepted settings around kind token)
      (accepted settings around kind token) := by
  unfold accepted
  refine .bind (Action.alike_lift _) ?_
  rintro c c' ⟨rfl, hc⟩
  refine .bind (alike_isRevoked ((jti_of_verified hc).trans h)) ?_
  rintro revoked revoked' rfl
  split
  · exact Action.alike_throw_bind _ _ _
  · exact Action.alike_pure rfl

theorem alike_redeem {token : String} (h : P.names settings .refresh token = true) :
    Alike P.owns Eq (redeem settings around token) (redeem settings around token) := by
  unfold redeem
  refine .bind (alike_accepted h) ?_
  rintro c c' rfl
  refine .bind (Action.alike_lift _) ?_
  rintro id id' ⟨rfl, -⟩
  refine .bind (Action.alike_lift _) ?_
  rintro user user' ⟨rfl, -⟩
  split
  · exact Action.alike_throw _
  · split
    · exact .bind (alike_revoke _ _) fun _ _ _ => Action.alike_pure rfl
    · exact Action.alike_pure rfl

theorem alike_logout (access : Token.Claims) (token : String) :
    Alike P.owns Eq (logout settings around access token)
      (logout settings around access token) := by
  have hrevoke (c : Token.Claims) : Alike P.owns Eq (do let _ ← (revoke around c).attempt)
      (do let _ ← (revoke around c).attempt) :=
    .bind (alike_revoke _ _).attempt fun _ _ _ => Action.alike_pure rfl
  unfold logout
  dsimp only
  split
  · exact Action.alike_throw_bind _ _ _
  · refine .bind (alike_revoke _ _).attempt fun _ _ _ => ?_
    split
    · exact Action.alike_pure rfl
    · split
      · exact Action.alike_throw_bind _ _ _
      · exact hrevoke _

/-! ## Programs about others -/

theorem spares_revoke_of_foreign {jti : String} (h : P.jti jti = false) (lifetime : Int) (key : Key)
    (hkey : P.owns key = true) : Spares key.text (Revocation.revoke jti lifetime) := by
  unfold Revocation.revoke
  split
  · exact Action.spares_pure _
  · refine Action.spares_setFlag ?_ _
    rw [ne_eq, Key.text_inj]
    rintro rfl
    exact Bool.false_ne_true (h.symm.trans hkey)

theorem spares_isRevoked (jti : String) (key : String) :
    Spares key (Revocation.isRevoked jti) := by
  unfold Revocation.isRevoked
  split
  · exact Action.spares_pure _
  · exact Action.spares_contains _

theorem verified_of_yields {kind : Token.Kind} {token : String} {c : Token.Claims}
    (h : Action.Yields (accepted settings around kind token) c) :
    verified settings around kind token = .ok c := by
  unfold accepted at h
  obtain ⟨claims, hclaims, h⟩ := Action.exists_of_yields_bind h
  obtain ⟨revoked, -, h⟩ := Action.exists_of_yields_bind h
  split at h
  · exact absurd h (Action.not_yields_throw_bind _ _ _)
  · rw [← Action.eq_of_yields_pure h]
    exact Action.ok_of_yields_lift hclaims

theorem spares_redeem_of_foreign {token : String}
    (h : P.names settings .refresh token = false) (key : Key) (hkey : P.owns key = true) :
    Spares key.text (redeem settings around token) := by
  unfold redeem
  refine .bind_of_yields spares_accepted fun c hc => ?_
  have hjti := (jti_of_verified (verified_of_yields hc)).trans h
  refine .bind (Action.spares_lift _) fun id => .bind (Action.spares_lift _) fun user => ?_
  split
  · exact Action.spares_throw _
  · split
    · exact .bind (spares_revoke_of_foreign hjti _ key hkey) fun _ => Action.spares_pure _
    · exact Action.spares_pure _

theorem spares_logout_of_foreign {access : Token.Claims} {token : String}
    (haccess : P.jti access.jti = false) (h : P.names settings .refresh token = false)
    (key : Key) (hkey : P.owns key = true) :
    Spares key.text (logout settings around access token) := by
  unfold logout
  dsimp only
  split
  · exact Action.spares_throw_bind _ _
  · refine .bind (spares_revoke_of_foreign haccess _ key hkey).attempt fun _ => ?_
    split
    · exact Action.spares_pure _
    · rename_i c hc
      split
      · exact Action.spares_throw_bind _ _
      · have hjti := (jti_of_verified hc).trans h
        exact .bind (spares_revoke_of_foreign hjti _ key hkey).attempt fun _ =>
          Action.spares_pure _

/-! ## The change that a login leaves behind -/

theorem job_judge {verifier : Verifier} {request : LoginRequest} {origin : String}
    {user : Option User} {locked blocked : Bool} :
    (judge verifier request origin user locked blocked).job =
        some (.failure request.username origin) ∨
      (judge verifier request origin user locked blocked).job =
        some (.success request.username origin) := by
  by_cases h : ∃ u, LetsIn verifier request.password user locked blocked u
  · obtain ⟨u, hu⟩ := h
    rw [judge_of_letsIn hu]
    exact .inr rfl
  · rw [judge_of_not_letsIn fun u hu => h ⟨u, hu⟩]
    exact .inl rfl

theorem job_attemptAfter {request : LoginRequest} {origin : String} {lock : Except Error Bool}
    {block : Except Error Guard.OriginBlock} {job : Bookkeeping}
    (h : (attemptAfter around request origin lock block).job = some job) :
    job = .failure request.username origin ∨ job = .success request.username origin := by
  unfold attemptAfter at h
  split at h
  · contradiction
  · contradiction
  · split at h
    · contradiction
    · rcases job_judge with hfailure | hsuccess
      · exact .inl (Option.some.inj (h.symm.trans hfailure))
      · exact .inr (Option.some.inj (h.symm.trans hsuccess))

/-- What an attempt leaves behind is a failure or a success of its names. -/
theorem job_attempt {request : LoginRequest} {origin : String} {store store' : Store}
    {answer : Except Error Attempt} {job : Bookkeeping}
    (hread : (attempt settings around request origin).run around.context store = (answer, store'))
    (hjob : (answer.toOption.bind fun attempt => attempt.job) = some job) :
    job = .failure (loginName request) origin ∨ job = .success (loginName request) origin := by
  rw [run_attempt] at hread
  unfold loginName
  cases hr : request.sanitize with
  | error e =>
    rw [hr] at hread
    obtain ⟨rfl, -⟩ := Prod.mk.inj hread
    contradiction
  | ok r =>
    rw [hr] at hread
    obtain ⟨rfl, -⟩ := Prod.mk.inj hread
    exact job_attemptAfter hjob

theorem spares_job_of_foreign {guard : Guard.Config} {job : Bookkeeping} {username origin : String}
    (hjob : job = .failure username origin ∨ job = .success username origin)
    (huser : P.user username = false) (horigin : P.origin origin = false) (key : Key)
    (hkey : P.owns key = true) : Spares key.text (job.run guard) := by
  have hforeign : job.act.touches P = false := by
    rcases hjob with rfl | rfl <;>
      simp [Bookkeeping.act, Guard.Act.touches, Guard.Act.username?, Guard.Act.origin?, huser,
        horigin]
  intro context store later hlater
  rw [← Bookkeeping.run_act]
  exact Guard.spares_action_of_foreign hforeign key hkey context store later hlater

end

end Service

end Gatehouse
