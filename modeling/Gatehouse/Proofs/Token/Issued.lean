import Gatehouse.Proofs.Token.Signed

/-! Issued tokens: what they open to, and when they expire. -/
namespace Gatehouse.Token

variable {c : Config} {kind : Kind} {user : UserId} {jti : String} {now : Timestamp}

/-- The claims of a token that is issued now and expires at an instant. -/
def claimsFor (c : Config) (kind : Kind) (user : UserId) (jti : String)
    (now expiresAt : Timestamp) : Claims :=
  ⟨user.text, jti, .ofInt now.seconds, .ofInt expiresAt.seconds, c.issuer, kind⟩

theorem issue_eq_some {issued : Issued} (h : issue c kind user jti now = some issued) :
    now.shift? (c.lifetime kind) = some issued.expiresAt ∧
      issued.text = String.ofList
        (signed (c.secret kind) (claimsFor c kind user jti now issued.expiresAt)) := by
  unfold issue at h
  simp only [Option.bind_eq_bind, Option.bind_eq_some_iff] at h
  obtain ⟨expiresAt, hshift, heq⟩ := h
  cases heq
  exact ⟨hshift, rfl⟩

theorem jti_issue {issued : Issued} (h : issue c kind user jti now = some issued) :
    issued.jti = jti := by
  unfold issue at h
  simp only [Option.bind_eq_bind, Option.bind_eq_some_iff] at h
  obtain ⟨expiresAt, -, heq⟩ := h
  cases heq
  rfl

theorem open?_issue {issued : Issued} (h : issue c kind user jti now = some issued) :
    open? (c.secret kind) issued.text.toList =
      some (claimsFor c kind user jti now issued.expiresAt) := by
  rw [(issue_eq_some h).2, String.toList_ofList, open?_signed]

theorem isSome_issue :
    (issue c kind user jti now).isSome = (now.shift? (c.lifetime kind)).isSome := by
  unfold issue
  cases now.shift? (c.lifetime kind) <;> rfl

/-- A second of the supported years fits in 64 bits. -/
theorem toInt_ofInt_of_inRange {second : Int} (h : Timestamp.inRange second = true) :
    (Int64.ofInt second).toInt = second := by
  have hfirst : Timestamp.firstSecond = -8334601228800 := by decide
  have hlast : Timestamp.lastSecond = 8210266876799 := by decide
  simp only [Timestamp.inRange, Bool.and_eq_true, decide_eq_true_eq, hfirst, hlast] at h
  apply Int64.toInt_ofInt_of_le
  · omega
  · omega

theorem toInt_ofInt_seconds {t : Timestamp} {nanos : Int} (h : now.shift? nanos = some t) :
    Timestamp.inRange t.seconds = true ∧ (Int64.ofInt t.seconds).toInt = t.seconds := by
  have hrange : Timestamp.inRange t.seconds = true := by
    obtain ⟨hmoved, heq⟩ := Option.ite_none_right_eq_some.mp h
    cases heq
    exact hmoved
  exact ⟨hrange, toInt_ofInt_of_inRange hrange⟩

theorem issuePair_eq_some {accessJti refreshJti : String} {access refresh : Issued}
    (h : issuePair c user accessJti refreshJti now = some (access, refresh)) :
    issue c .access user accessJti now = some access ∧
      issue c .refresh user refreshJti now = some refresh := by
  unfold issuePair at h
  simp only [Option.bind_eq_bind, Option.bind_eq_some_iff] at h
  obtain ⟨a, ha, r, hr, heq⟩ := h
  cases heq
  exact ⟨ha, hr⟩

end Gatehouse.Token
