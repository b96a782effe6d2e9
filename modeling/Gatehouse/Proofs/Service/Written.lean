import Gatehouse.Proofs.User.Written
import Gatehouse.Service.Login

/-! Every value that the service takes or gives away comes back from the text that is written for
it. Only the hash of a user's password does not, and nothing of it shows in the text; and a time
that has no text of its own comes back as the one that its text names. -/
namespace Gatehouse

/-! ## Pairs of tokens and answers to logins -/

structure Token.Pair.HasSupportedTimes (p : Token.Pair) : Prop where
  access : p.accessExpiresAt.IsSupported
  refresh : p.refreshExpiresAt.IsSupported

/-- The times of a pair have texts of their own. -/
structure Token.Pair.HasValidTimes (p : Token.Pair) : Prop where
  access : p.accessExpiresAt.IsValid
  refresh : p.refreshExpiresAt.IsValid

namespace Token.Pair

/-- The pair with the times that their texts name. -/
def settled (p : Pair) : Pair :=
  { p with
    accessExpiresAt := p.accessExpiresAt.settled
    refreshExpiresAt := p.refreshExpiresAt.settled }

theorem isIntegral_toJson (p : Pair) : p.toJson.IsIntegral :=
  ⟨trivial, trivial, trivial, trivial, trivial, trivial⟩

theorem allFields?_reread (p : Pair) :
    p.toJson.reread.allFields? ["access_token", "access_token_expires_at", "refresh_token",
        "refresh_token_expires_at", "token_type"] =
      some [(Json.str p.access).reread, (Json.timestamp p.accessExpiresAt).reread,
        (Json.str p.refresh).reread, (Json.timestamp p.refreshExpiresAt).reread,
        (Json.str p.type).reread] :=
  Json.allFields?_reread_record _ (by simp)

theorem ofJson?_reread {p : Pair} (h : p.HasSupportedTimes) :
    ofJson? p.toJson.reread = some p.settled := by
  unfold ofJson?
  rw [p.allFields?_reread]
  simp [Json.timestamp?_reread_timestamp h.access, Json.timestamp?_reread_timestamp h.refresh,
    settled]

theorem settled_eq_self_iff {p : Pair} (h : p.HasSupportedTimes) :
    p.settled = p ↔ p.HasValidTimes := by
  have hfields : p.settled = p ↔
      p.accessExpiresAt.settled = p.accessExpiresAt ∧
        p.refreshExpiresAt.settled = p.refreshExpiresAt := by
    cases p
    simp [settled]
  rw [hfields, Timestamp.settled_eq_self_iff h.access, Timestamp.settled_eq_self_iff h.refresh]
  exact ⟨fun ⟨ha, hr⟩ => ⟨ha, hr⟩, fun hp => ⟨hp.access, hp.refresh⟩⟩

theorem readsAs_settled {p : Pair} (h : p.HasSupportedTimes) :
    p.toJson.ReadsAs ofJson? p.settled :=
  Json.readsAs_of_reread p.isIntegral_toJson (ofJson?_reread h)

theorem readsAs_self_iff {p : Pair} (h : p.HasSupportedTimes) :
    p.toJson.ReadsAs ofJson? p ↔ p.HasValidTimes :=
  (readsAs_settled h).iff_eq.trans (settled_eq_self_iff h)

end Token.Pair

namespace User

/-- The same user with another hash. -/
def withHash (u : User) (hash : String) : User := { u with passwordHash := hash }

theorem settled_withHash_eq_iff {u : User} (h : u.HasSupportedTimes) (hash : String) :
    u.settled.withHash hash = u.withHash hash ↔ u.HasValidTimes := by
  have hfields : u.settled.withHash hash = u.withHash hash ↔
      u.createdAt.settled = u.createdAt ∧ u.updatedAt.settled = u.updatedAt := by
    cases u
    simp [settled, withHash]
  rw [hfields, Timestamp.settled_eq_self_iff h.createdAt, Timestamp.settled_eq_self_iff h.updatedAt]
  exact ⟨fun ⟨hc, hu⟩ => ⟨hc, hu⟩, fun hu => ⟨hu.createdAt, hu.updatedAt⟩⟩

theorem readsAs_settled {u : User} (h : u.HasSupportedTimes) :
    u.toJson.ReadsAs ofJson? (u.settled.withHash "") :=
  Json.readsAs_of_reread u.isIntegral_toJson (ofJson?_reread h)

theorem readsAs_withHash_iff {u : User} (h : u.HasSupportedTimes) :
    u.toJson.ReadsAs ofJson? (u.withHash "") ↔ u.HasValidTimes :=
  (readsAs_settled h).iff_eq.trans (settled_withHash_eq_iff h "")

end User

namespace LoginResponse

theorem isIntegral_toJson (r : LoginResponse) : r.toJson.IsIntegral :=
  ⟨r.user.isIntegral_toJson, r.tokens.isIntegral_toJson, trivial⟩

theorem allFields?_reread (r : LoginResponse) :
    r.toJson.reread.allFields? ["user", "tokens"] =
      some [r.user.toJson.reread, r.tokens.toJson.reread] :=
  Json.allFields?_reread_record _ (by simp)

/-- A record whose fields are read as a user and a pair. -/
theorem ofJson?_of_fields {j userForm tokensForm : Json} {user : User} {tokens : Token.Pair}
    (h : j.allFields? ["user", "tokens"] = some [userForm, tokensForm])
    (huser : User.ofJson? userForm = some user)
    (htokens : Token.Pair.ofJson? tokensForm = some tokens) :
    ofJson? j = some ⟨user, tokens⟩ := by
  unfold ofJson?
  rw [h]
  simp [huser, htokens]

theorem ofJson?_reread {r : LoginResponse} (huser : r.user.HasSupportedTimes)
    (htokens : r.tokens.HasSupportedTimes) :
    ofJson? r.toJson.reread = some ⟨r.user.settled.withHash "", r.tokens.settled⟩ :=
  ofJson?_of_fields r.allFields?_reread (User.ofJson?_reread huser)
    (Token.Pair.ofJson?_reread htokens)

theorem readsAs_settled {r : LoginResponse} (huser : r.user.HasSupportedTimes)
    (htokens : r.tokens.HasSupportedTimes) :
    r.toJson.ReadsAs ofJson? ⟨r.user.settled.withHash "", r.tokens.settled⟩ :=
  Json.readsAs_of_reread r.isIntegral_toJson (ofJson?_reread huser htokens)

theorem readsAs_withHash_iff {r : LoginResponse} (huser : r.user.HasSupportedTimes)
    (htokens : r.tokens.HasSupportedTimes) :
    r.toJson.ReadsAs ofJson? { r with user := r.user.withHash "" } ↔
      r.user.HasValidTimes ∧ r.tokens.HasValidTimes := by
  rw [(readsAs_settled huser htokens).iff_eq, LoginResponse.mk.injEq,
    User.settled_withHash_eq_iff huser "", Token.Pair.settled_eq_self_iff htokens]

end LoginResponse

/-- Every value comes back from its text, a user without the hash and a time as its text names it, so
that what has times comes back as it was just if each of them has a text of its own. Permissions come
back in whatever order their roles are written. The text of a user is the same for all hashes. -/
theorem readsAs_written :
    (∀ r : LoginRequest, r.toJson.ReadsAs LoginRequest.ofJson? r) ∧
    (∀ r : Role, r.toJson.ReadsAs Role.ofJson? r) ∧
    (∀ a : UserAccess, a.toJson.ReadsAs UserAccess.ofJson? a ∧
      ∀ entries : List (RoleId × PermissionSet), entries.Perm a.permissions.toList →
        (a.toJsonListing entries).ReadsAs UserAccess.ofJson? a) ∧
    (∀ c : Token.Claims, c.toJson.ReadsAs Token.Claims.ofJson? c) ∧
    (∀ p : Token.Pair, p.HasSupportedTimes →
      p.toJson.ReadsAs Token.Pair.ofJson? p.settled ∧
      (p.toJson.ReadsAs Token.Pair.ofJson? p ↔ p.HasValidTimes)) ∧
    (∀ u : User, u.HasSupportedTimes →
      u.toJson.ReadsAs User.ofJson? (u.settled.withHash "") ∧
      (u.toJson.ReadsAs User.ofJson? (u.withHash "") ↔ u.HasValidTimes)) ∧
    (∀ r : LoginResponse, r.user.HasSupportedTimes → r.tokens.HasSupportedTimes →
      r.toJson.ReadsAs LoginResponse.ofJson? ⟨r.user.settled.withHash "", r.tokens.settled⟩ ∧
      (r.toJson.ReadsAs LoginResponse.ofJson? { r with user := r.user.withHash "" } ↔
        r.user.HasValidTimes ∧ r.tokens.HasValidTimes)) ∧
    (∀ (u : User) (hash : String), (u.withHash hash).toJson.compact = u.toJson.compact) ∧
    ∀ (r : LoginResponse) (hash : String),
      (LoginResponse.toJson { r with user := r.user.withHash hash }).compact = r.toJson.compact := by
  have haccess (a : UserAccess) (entries : List (RoleId × PermissionSet))
      (h : entries.Perm a.permissions.toList) :
      (a.toJsonListing entries).ReadsAs UserAccess.ofJson? a :=
    Json.readsAs_of_reread (a.isIntegral_toJsonListing entries)
      (UserAccess.ofJson?_reread_toJsonListing h)
  refine ⟨fun r => ?_, fun r => ?_, fun a => ⟨?_, haccess a⟩, fun c => ?_, fun p hp => ?_,
    fun u hu => ?_, fun r huser htokens => ?_, fun u hash => rfl, fun r hash => rfl⟩
  · exact Json.readsAs_of_reread r.isIntegral_toJson r.ofJson?_reread
  · exact Json.readsAs_of_reread r.isIntegral_toJson r.ofJson?_reread
  · rw [a.toJson_eq_toJsonListing]
    exact haccess a a.permissions.toList (List.Perm.refl _)
  · exact Json.readsAs_of_reread c.isIntegral_toJson c.ofJson?_toJson
  · exact ⟨Token.Pair.readsAs_settled hp, Token.Pair.readsAs_self_iff hp⟩
  · exact ⟨User.readsAs_settled hu, User.readsAs_withHash_iff hu⟩
  · exact ⟨LoginResponse.readsAs_settled huser htokens,
      LoginResponse.readsAs_withHash_iff huser htokens⟩

namespace LeapSecond

/-- A user made within a leap second and changed at the last supported instant. -/
def user : User :=
  ⟨⟨18446744073709551615⟩, "ada", "Ada \"Λ\" Byron", "", "hash", ⟨1483228799, 1500000000⟩,
    ⟨Timestamp.lastSecond, 999999999⟩⟩

def tokens : Token.Pair :=
  ⟨"access", ⟨Timestamp.firstSecond, 1000000⟩, "refresh", ⟨-1, 1000⟩, "Bearer"⟩

def access : UserAccess :=
  ((UserAccess.empty user.id).withPermission ⟨10⟩ "read").withPermission ⟨9⟩ "write"

theorem readsAs_all :
    user.toJson.ReadsAs User.ofJson? (user.withHash "") ∧
    tokens.toJson.ReadsAs Token.Pair.ofJson? tokens ∧
    (LoginResponse.toJson ⟨user, tokens⟩).ReadsAs LoginResponse.ofJson?
      ⟨user.withHash "", tokens⟩ ∧
    (access.toJsonListing access.permissions.toList.reverse).ReadsAs UserAccess.ofJson? access := by
  have huser : user.HasSupportedTimes := ⟨by decide, by decide⟩
  have hvalid : user.HasValidTimes := ⟨by decide, by decide⟩
  have htokens : tokens.HasSupportedTimes := ⟨by decide, by decide⟩
  have hvalidTokens : tokens.HasValidTimes := ⟨by decide, by decide⟩
  obtain ⟨-, -, haccess, -, hpair, hwritten, hresponse, -⟩ := readsAs_written
  exact ⟨(hwritten user huser).2.mpr hvalid, (hpair tokens htokens).2.mpr hvalidTokens,
    (hresponse ⟨user, tokens⟩ huser htokens).2.mpr ⟨hvalid, hvalidTokens⟩,
    (haccess access).2 _ (List.reverse_perm _)⟩

/-- A user whose time of creation runs on past second 30. -/
def straggler : User := { user with createdAt := ⟨30, 1500000000⟩ }

/-- The text of that time names second 31, and that is what it is read as. -/
theorem straggler_not_readsAs_itself :
    straggler.HasSupportedTimes ∧
    straggler.toJson.ReadsAs User.ofJson?
      { straggler with createdAt := ⟨31, 500000000⟩, passwordHash := "" } ∧
    ¬ straggler.toJson.ReadsAs User.ofJson? (straggler.withHash "") := by
  have htimes : straggler.HasSupportedTimes := ⟨by decide, by decide⟩
  have hnamed : straggler.settled.withHash "" =
      { straggler with createdAt := ⟨31, 500000000⟩, passwordHash := "" } := rfl
  have hinvalid : ¬ straggler.HasValidTimes := fun h => absurd h.createdAt (by decide)
  exact ⟨htimes, hnamed ▸ User.readsAs_settled htimes,
    mt (User.readsAs_withHash_iff htimes).mp hinvalid⟩

end LeapSecond

end Gatehouse
