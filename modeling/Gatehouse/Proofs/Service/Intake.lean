import Gatehouse.Proofs.Credentials
import Gatehouse.Proofs.Service.Finality
import Gatehouse.Proofs.Service.Login

/-! What the service makes of texts before it looks at anything else. A login request passes exactly
if both of its texts are well formed; a token counts as what it is without the white space around
it. -/
namespace Gatehouse.Service

open Text (AllBlank TrimsTo)

section

variable {text other front back : String}

theorem checkToken_congr (h : Text.trim text = Text.trim other) :
    checkToken text = checkToken other := by
  rw [checkToken_eq, checkToken_eq, h]

theorem verified_append (settings : Settings) (around : Surroundings) (kind : Token.Kind)
    (hfront : AllBlank front) (hback : AllBlank back) (token : String) :
    verified settings around kind (front ++ token ++ back) =
      verified settings around kind token := by
  unfold verified
  rw [checkToken_congr (Text.trim_append hfront hback token)]

theorem accepted_append (settings : Settings) (around : Surroundings) (kind : Token.Kind)
    (hfront : AllBlank front) (hback : AllBlank back) (token : String) :
    accepted settings around kind (front ++ token ++ back) =
      accepted settings around kind token := by
  unfold accepted
  rw [verified_append settings around kind hfront hback]

theorem redeem_append (settings : Settings) (around : Surroundings) (hfront : AllBlank front)
    (hback : AllBlank back) (token : String) :
    redeem settings around (front ++ token ++ back) = redeem settings around token := by
  unfold redeem
  rw [accepted_append settings around .refresh hfront hback]

theorem logout_append (settings : Settings) (around : Surroundings) (access : Token.Claims)
    (hfront : AllBlank front) (hback : AllBlank back) (refresh : String) :
    logout settings around access (front ++ refresh ++ back) =
      logout settings around access refresh := by
  unfold logout
  rw [verified_append settings around .refresh hfront hback]

end

/-- A login request passes exactly if its username, without the white space around it, and its
password are well formed; it then has that username and the same password, and passes again as it
is. Otherwise the fault of the username is named, or that of the password if the username has none.
White space around a token changes neither what is answered nor what is done. -/
theorem checked_up_to_blanks (settings : Settings) (around : Surroundings) :
    (∀ request : LoginRequest, ∃ name, TrimsTo request.username name ∧
      (∀ checked, request.sanitize = .ok checked ↔
        (IsUsername name ∧ IsPassword request.password) ∧ checked = ⟨name, request.password⟩) ∧
      (∀ e, request.sanitize = .error e ↔
        UsernameFault name e ∨ IsUsername name ∧ PasswordFault request.password e)) ∧
    (∀ request checked : LoginRequest, request.sanitize = .ok checked →
      checked.sanitize = .ok checked) ∧
    ∀ front token back, AllBlank front → AllBlank back →
      authenticate settings around (front ++ token ++ back) = authenticate settings around token ∧
      (∀ s : State, s.refresh settings around (front ++ token ++ back) =
        s.refresh settings around token) ∧
      ∀ access, logout settings around access (front ++ token ++ back) =
        logout settings around access token := by
  refine ⟨fun request => ?_, fun _ _ => LoginRequest.sanitize_of_sanitize,
    fun front token back hfront hback => ⟨?_, fun s => ?_, fun access => ?_⟩⟩
  · have hsorts := request.sorts_sanitize
    exact ⟨Text.trim request.username, Text.trimsTo_trim _, hsorts.eq_ok_iff, hsorts.eq_error_iff⟩
  · exact accepted_append settings around .access hfront hback token
  · unfold State.refresh
    rw [redeem_append settings around hfront hback]
  · exact logout_append settings around access hfront hback token

namespace Sample

/-- The sample request, with white space around its username. -/
def padded : LoginRequest := ⟨"\n alice\u3000", request.password⟩

theorem padded_like_request :
    padded.sanitize = .ok request ∧ request.sanitize = .ok request ∧
      start.whoCalls settings ("\t" ++ token .access ++ " \u2029") = .ok (claims .access) ∧
      start.exchange settings ("\t" ++ token .refresh ++ " \u2029") =
        start.exchange settings (token .refresh) := by
  have hfront : AllBlank "\t" := by decide +kernel
  have hback : AllBlank " \u2029" := by decide +kernel
  have hpadded : padded.sanitize = .ok request := by decide +kernel
  obtain ⟨-, hagain, htoken⟩ := checked_up_to_blanks settings start.around
  have hcalls (token : String) :
      start.whoCalls settings ("\t" ++ token ++ " \u2029") = start.whoCalls settings token := by
    obtain ⟨hsame, -, -⟩ := htoken "\t" token " \u2029" hfront hback
    rw [Moment.whoCalls, hsame, Moment.whoCalls]
  have hexchange (token : String) :
      start.exchange settings ("\t" ++ token ++ " \u2029") = start.exchange settings token := by
    obtain ⟨-, hsame, -⟩ := htoken "\t" token " \u2029" hfront hback
    rw [Moment.exchange, hsame, Moment.exchange]
  exact ⟨hpadded, hagain padded request hpadded, (hcalls _).trans whoCalls_token, hexchange _⟩

end Sample

end Gatehouse.Service
