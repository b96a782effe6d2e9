import Gatehouse.Proofs.Token.Issued

/-! What verifying a token decides. A text is accepted only if it is three parts, of which the last
is the signature of the other two under the secret of the kind and the middle one spells the claims.
What the issuer signs is accepted to the end of the second in which it expires and shows what went
in. The kind stands in the payload, so no text passes as both kinds, whatever signatures collide. -/
namespace Gatehouse

theorem UserId.toList_text (id : UserId) : id.text.toList = Nat.toDigits 10 id.value.toNat :=
  Nat.toList_repr

theorem UserId.parse_text (id : UserId) : parse id.text = .ok id := by
  have hdigit : ∀ c ∈ Nat.toDigits 10 id.value.toNat, c.isDigit = true :=
    fun c hc => Json.isDigit_toDigits hc
  have hdigits : Text.digits? (Nat.toDigits 10 id.value.toNat) = some id.value.toNat := by
    unfold Text.digits?
    rw [if_pos ⟨Nat.toDigits_ne_nil, List.all_eq_true.mpr hdigit⟩, Json.digitsValue_toDigits]
  have hunsigned : Text.unsigned? (Nat.toDigits 10 id.value.toNat) = some id.value.toNat := by
    rw [← hdigits]
    unfold Text.unsigned?
    split
    · rename_i cs hplus
      exact absurd (hdigit '+' (hplus ▸ List.mem_cons_self)) (by decide)
    · rfl
  unfold parse
  rw [id.toList_text, hunsigned, Option.bind_some, ofNat?, if_pos id.value.toNat_lt,
    UInt64.ofNat_toNat]

namespace Token

/-! ## The parts of a text -/

theorem splitLastDot_eq_some {cs before after : List Char}
    (h : splitLastDot cs = some (before, after)) : cs = before ++ '.' :: after ∧ '.' ∉ after := by
  have hsplit := List.takeWhile_append_dropWhile (p := (· ≠ '.')) (l := cs.reverse)
  unfold splitLastDot at h
  dsimp only at h
  generalize hafter : cs.reverse.takeWhile (· ≠ '.') = taken at h hsplit
  rw [← hsplit, List.drop_left] at h
  split at h
  · rename_i c rest hrest
    cases h
    have hc : c = '.' := by
      have hfirst := List.head?_dropWhile_not (· ≠ '.') cs.reverse
      rw [hrest] at hfirst
      simpa using hfirst
    have hreverse := congrArg List.reverse hsplit
    rw [hrest, hc] at hreverse
    refine ⟨by simpa using hreverse.symm, ?_⟩
    rw [List.mem_reverse, ← hafter]
    intro hmem
    have hdot := List.mem_takeWhile_imp hmem
    simp at hdot
  · contradiction

/-- The algorithm that a header names: the one member `alg`, or the second item. -/
def Header.algorithm? : Json → Option String
  | .object members => ((Json.field? members "alg").bind id).bind Json.variant?
  | .array items => items[1]?.bind Json.variant?
  | _ => none

theorem Header.algorithm?_of_isValid {j : Json} (h : isValid j = true) :
    algorithm? j = some "HS256" := by
  have hnamed {value : Option Json} (hone : value.any (isOneOf ["HS256"]) = true) :
      value.bind Json.variant? = some "HS256" := by
    cases value with
    | none => contradiction
    | some v =>
      simp only [Option.any_some, isOneOf] at hone
      cases hv : v.variant? with
      | none => simp [hv] at hone
      | some name =>
        simp only [hv, Option.any_some, List.contains_cons, List.contains_nil, Bool.or_false,
          beq_iff_eq] at hone
        rw [Option.bind_some, hv, hone]
  unfold isValid at h
  split at h
  · rename_i hfields
    simp only [Bool.and_eq_true] at h
    obtain ⟨⟨⟨halg, -⟩, -⟩, -⟩ := h
    cases j with
    | object members =>
      obtain ⟨-, hvalues⟩ := Option.ite_none_right_eq_some.mp hfields
      simp only [List.mapM_cons, Option.bind_eq_bind, Option.bind_eq_some_iff] at hvalues
      obtain ⟨typ, -, rest, ⟨alg, hfield, others, -, hrest⟩, hlist⟩ := hvalues
      cases hrest
      cases hlist
      simpa [algorithm?, hfield] using hnamed halg
    | array items =>
      obtain ⟨-, hvalues⟩ := Option.ite_none_right_eq_some.mp hfields
      have hsecond := congrArg (·[1]?) (Option.some.inj hvalues)
      simp only [List.getElem?_map] at hsecond
      cases hitem : items[1]? with
      | none => simp [hitem] at hsecond
      | some item =>
        simp only [hitem, Option.map_some, List.getElem?_cons_succ, List.getElem?_cons_zero,
          Option.some.injEq] at hsecond
        subst hsecond
        simpa [algorithm?, hitem] using hnamed halg
    | _ => cases hfields
  · contradiction

/-- The claims that a token shows to anyone, whatever its signature is. -/
def shown? (token : List Char) : Option Claims := do
  let (message, _) ← splitLastDot token
  let (_, payload) ← splitLastDot message
  Claims.ofJson? (← decodeJson? payload)

/-- A text that opens under a secret, part by part. -/
theorem open?_eq_some {secret : Bytes} {token : List Char} {c : Claims}
    (h : open? secret token = some c) :
    shown? token = some c ∧ ∃ header payload,
      token = header ++ '.' :: payload ++ '.' :: signature secret (header ++ '.' :: payload) ∧
      '.' ∉ payload ∧ (decodeJson? header).bind Header.algorithm? = some "HS256" ∧
      (decodeJson? payload).bind Claims.ofJson? = some c := by
  unfold open? at h
  simp only [Option.bind_eq_bind, Option.bind_eq_some_iff, Prod.exists,
    Option.guard_eq_some'] at h
  obtain ⟨message, mark, htoken, header, payload, hmessage, -, hmark, j, hheader, -, hvalid, k,
    hpayload, claims, hclaims, -, -, heq⟩ := h
  cases heq
  obtain ⟨rfl, -⟩ := splitLastDot_eq_some htoken
  obtain ⟨rfl, hdot⟩ := splitLastDot_eq_some hmessage
  refine ⟨?_, header, payload, by rw [hmark], hdot, ?_, ?_⟩
  · simp only [shown?, Option.bind_eq_bind, htoken, hmessage, hpayload, Option.bind_some]
    exact hclaims
  · rw [hheader, Option.bind_some, Header.algorithm?_of_isValid hvalid]
  · rw [hpayload, Option.bind_some, hclaims]

/-! ## Acceptance -/

theorem verify_eq_ok {c : Config} {kind : Kind} {token : String} {second : Int} {claims : Claims}
    (h : verify c kind token second = .ok claims) :
    open? (c.secret kind) token.toList = some claims ∧ 0 ≤ claims.expires.toInt ∧
      second ≤ claims.expires.toInt ∧ claims.issuer = c.issuer ∧ claims.kind = kind := by
  unfold verify at h
  split at h
  · rename_i opened hopen
    split at h
    · rename_i hvalid
      cases h
      exact ⟨hopen, hvalid⟩
    · contradiction
  · contradiction

theorem verify_of_not_ok {c : Config} {kind : Kind} {token : String} {second : Int}
    (h : ∀ claims, verify c kind token second ≠ .ok claims) :
    verify c kind token second = .error .tokenInvalid := by
  unfold verify at h ⊢
  split
  · split
    · simp_all
    · rfl
  · rfl

/-- An accepted text shows claims of the kind that accepts it. -/
theorem kind_of_verify {c : Config} {kind : Kind} {token : String} {second : Int} {claims : Claims}
    (h : verify c kind token second = .ok claims) :
    shown? token.toList = some claims ∧ claims.kind = kind := by
  obtain ⟨hopen, -, -, -, hkind⟩ := verify_eq_ok h
  exact ⟨(open?_eq_some hopen).1, hkind⟩

/-! ## Issuing and verifying -/

/-- From 1970 on, what is issued is accepted to the end of the second in which it expires. -/
theorem verify_of_issue {c : Config} {kind : Kind} {user : UserId} {jti : String} {t : Timestamp}
    {issued : Issued} (h : issue c kind user jti t = some issued) {second : Int}
    (hsecond : 0 ≤ second) :
    verify c kind issued.text second =
      if second ≤ issued.expiresAt.seconds then .ok (claimsFor c kind user jti t issued.expiresAt)
      else .error .tokenInvalid := by
  have hexpires : (Int64.ofInt issued.expiresAt.seconds).toInt = issued.expiresAt.seconds :=
    (toInt_ofInt_seconds (issue_eq_some h).1).2
  unfold verify
  simp only [open?_issue h, claimsFor, hexpires, and_true]
  by_cases hcurrent : second ≤ issued.expiresAt.seconds
  · rw [if_pos ⟨Int.le_trans hsecond hcurrent, hcurrent⟩, if_pos hcurrent]
  · rw [if_neg fun h => hcurrent h.2, if_neg hcurrent]

/-- Any user's token of any kind is issued if it expires within the supported years. It is accepted
to the end of the second in which it expires, and then shows what went in: the id, both instants in
whole seconds, the issuer, the kind and the user. -/
theorem verify_issue (c : Config) (kind : Kind) (user : UserId) (jti : String)
    {t ending : Timestamp} (ht : Timestamp.inRange t.seconds = true)
    (hend : t.shift? (c.lifetime kind) = some ending) :
    ∃ issued claims, issue c kind user jti t = some issued ∧ issued.expiresAt = ending ∧
      issued.jti = jti ∧ claims.jti = issued.jti ∧ claims.issuedAt.toInt = t.seconds ∧
      claims.expires.toInt = issued.expiresAt.seconds ∧
      (t.nanos < nanosPerSecond →
        claims.expires.toInt = (t.toNanos + c.lifetime kind) / nanosPerSecond) ∧
      claims.issuer = c.issuer ∧ claims.kind = kind ∧ claims.userId = .ok user ∧
      ∀ now : Int, 0 ≤ now →
        verify c kind issued.text (now / nanosPerSecond) =
          if now / nanosPerSecond ≤ issued.expiresAt.seconds then .ok claims
          else .error .tokenInvalid := by
  obtain ⟨issued, hissue⟩ : ∃ issued, issue c kind user jti t = some issued := by
    rw [← Option.isSome_iff_exists, isSome_issue, hend, Option.isSome_some]
  have hjti : issued.jti = jti := jti_issue hissue
  obtain ⟨hshift, -⟩ := issue_eq_some hissue
  have hexpires : issued.expiresAt = ending := by
    rw [hend, Option.some.injEq] at hshift
    exact hshift.symm
  have hsecond : (Int64.ofInt issued.expiresAt.seconds).toInt = issued.expiresAt.seconds :=
    (toInt_ofInt_seconds hshift).2
  refine ⟨issued, claimsFor c kind user jti t issued.expiresAt, hissue, hexpires, hjti, hjti.symm,
    toInt_ofInt_of_inRange ht, hsecond, ?_, rfl, rfl, ?_, ?_⟩
  · intro hnanos
    rw [Timestamp.shift?_of_nanos_lt hnanos] at hshift
    obtain ⟨-, hmoved⟩ := Option.ite_none_right_eq_some.mp hshift
    rw [claimsFor, hsecond, ← Option.some.inj hmoved, Timestamp.ofNanos]
  · rw [Claims.userId, claimsFor, UserId.parse_text, Except.mapError]
  · intro now hnow
    exact verify_of_issue hissue (Int.ediv_nonneg hnow (by decide))

/-! ## A token from an issuer with quotes, controls and other letters in its name -/

namespace Sample

def config : Config where
  accessSecret := List.replicate 32 97
  refreshSecret := List.replicate 32 114
  accessLifetime := 900 * nanosPerSecond
  refreshLifetime := -nanosPerSecond
  issuer := "Pförtner \"Süd\"\n\u0001"
  access_long := by decide
  refresh_long := by decide
  secrets_ne := by decide

def user : UserId := ⟨0xffffffffffffffff⟩

def time : Timestamp := ⟨1700000000, 500000000⟩

/-- The greatest user id comes back from a token up to the last nanosecond of its last second. -/
theorem issued_for_last_user : ∃ issued claims, issue config .access user "id" time = some issued ∧
    claims.userId = .ok user ∧ claims.issuer = config.issuer ∧
    verify config .access issued.text (1700000900999999999 / nanosPerSecond) = .ok claims ∧
    verify config .access issued.text (1700000901000000000 / nanosPerSecond) =
      .error .tokenInvalid := by
  have hend : time.shift? (config.lifetime .access) = some ⟨1700000900, 500000000⟩ := by decide
  have htime : Timestamp.inRange time.seconds = true := by decide
  obtain ⟨issued, claims, hissue, hexpires, -, -, -, -, -, hissuer, -, huser, hverify⟩ :=
    verify_issue config .access user "id" htime hend
  refine ⟨issued, claims, hissue, huser, hissuer, ?_, ?_⟩
  · rw [hverify _ (by decide), hexpires]
    rfl
  · rw [hverify _ (by decide), hexpires]
    rfl

end Sample

/-! ## What acceptance shows -/

/-- A text that is accepted at a second is three parts. The last is the signature of the rest under
the secret of the kind, the first names HS256, and the middle one spells the claims, which are of
that kind, from the issuer and not out of date. No text is accepted as both kinds, whatever the
seconds, and one issued as either kind is never accepted as the other. -/
theorem verify_sound (c : Config) :
    (∀ kind token second claims, verify c kind token second = .ok claims →
      (∃ header payload mark, token.toList = header ++ '.' :: payload ++ '.' :: mark ∧
        '.' ∉ payload ∧ '.' ∉ mark ∧
        mark = base64 (Digest.hmac (c.secret kind)
          (Text.toBytes (String.ofList (header ++ '.' :: payload)))) ∧
        (decodeJson? header).bind Header.algorithm? = some "HS256" ∧
        (decodeJson? payload).bind Claims.ofJson? = some claims) ∧
      claims.kind = kind ∧ claims.issuer = c.issuer ∧ second ≤ claims.expires.toInt) ∧
    (∀ token second claims, verify c .access token second = .ok claims →
      ∀ second', verify c .refresh token second' = .error .tokenInvalid) ∧
    (∀ token second claims, verify c .refresh token second = .ok claims →
      ∀ second', verify c .access token second' = .error .tokenInvalid) ∧
    (∀ kind user jti now issued, issue c kind user jti now = some issued →
      ∀ other second, other ≠ kind →
        verify c other issued.text second = .error .tokenInvalid) := by
  have hshown {kind other : Kind} {token : String} {shown : Claims} (second : Int)
      (hshows : shown? token.toList = some shown) (hkind : shown.kind = kind)
      (hne : other ≠ kind) : verify c other token second = .error .tokenInvalid := by
    refine verify_of_not_ok fun claims h => ?_
    obtain ⟨hsame, hother⟩ := kind_of_verify h
    rw [hshows, Option.some.injEq] at hsame
    exact hne (by rw [← hother, ← hsame, hkind])
  refine ⟨?_, ?_, ?_, ?_⟩
  · intro kind token second claims h
    obtain ⟨hopen, -, hcurrent, hissuer, hkind⟩ := verify_eq_ok h
    obtain ⟨-, header, payload, htoken, hdot, halgorithm, hclaims⟩ := open?_eq_some hopen
    exact ⟨⟨header, payload, _, htoken, hdot, dot_notMem_base64 _, rfl, halgorithm, hclaims⟩,
      hkind, hissuer, hcurrent⟩
  · intro token second claims h second'
    obtain ⟨hshows, hkind⟩ := kind_of_verify h
    exact hshown second' hshows hkind (by decide)
  · intro token second claims h second'
    obtain ⟨hshows, hkind⟩ := kind_of_verify h
    exact hshown second' hshows hkind (by decide)
  · intro kind user jti now issued h other second hne
    exact hshown second (open?_eq_some (open?_issue h)).1 rfl hne

namespace Sample

def lastSecond : Kind → Int
  | .access => 1700000900
  | .refresh => 1699999999

theorem exists_issued (kind : Kind) : ∃ issued, issue config kind user "id" time = some issued ∧
    issued.expiresAt.seconds = lastSecond kind := by
  have hsome : (issue config kind user "id" time).isSome = true := by
    rw [isSome_issue]
    cases kind <;> decide
  obtain ⟨issued, hissue⟩ := Option.isSome_iff_exists.mp hsome
  have hshift := (issue_eq_some hissue).1
  refine ⟨issued, hissue, ?_⟩
  cases kind with
  | access =>
    have hmoved : time.shift? (config.lifetime .access) = some ⟨1700000900, 500000000⟩ := by decide
    rw [hmoved, Option.some.injEq] at hshift
    rw [← hshift, lastSecond]
  | refresh =>
    have hmoved : time.shift? (config.lifetime .refresh) = some ⟨1699999999, 500000000⟩ := by decide
    rw [hmoved, Option.some.injEq] at hshift
    rw [← hshift, lastSecond]

/-- Each token passes as its own kind to its last second, and never as the other kind. -/
theorem accepted_as_one_kind : ∃ access refresh,
    issue config .access user "id" time = some access ∧
    issue config .refresh user "id" time = some refresh ∧
    (∃ claims, verify config .access access.text 1700000900 = .ok claims ∧ claims.kind = .access) ∧
    (∃ claims, verify config .refresh refresh.text 1699999999 = .ok claims ∧
      claims.kind = .refresh) ∧
    ∀ second, verify config .refresh access.text second = .error .tokenInvalid ∧
      verify config .access refresh.text second = .error .tokenInvalid := by
  obtain ⟨access, haccess, hlast⟩ := exists_issued .access
  obtain ⟨refresh, hrefresh, hlast'⟩ := exists_issued .refresh
  have hpasses := verify_of_issue haccess (show (0 : Int) ≤ 1700000900 by decide)
  have hpasses' := verify_of_issue hrefresh (show (0 : Int) ≤ 1699999999 by decide)
  rw [hlast, if_pos (by decide)] at hpasses
  rw [hlast', if_pos (by decide)] at hpasses'
  obtain ⟨hparts, hnotRefresh, hnotAccess, hother⟩ := verify_sound config
  obtain ⟨-, hkind, -, -⟩ := hparts _ _ _ _ hpasses
  obtain ⟨-, hkind', -, -⟩ := hparts _ _ _ _ hpasses'
  refine ⟨access, refresh, haccess, hrefresh, ⟨_, hpasses, hkind⟩, ⟨_, hpasses', hkind'⟩,
    fun second => ⟨?_, ?_⟩⟩
  · exact hnotRefresh _ _ _ hpasses second
  · exact hother _ _ _ _ _ hrefresh .access second (by decide)

end Sample

end Token

end Gatehouse
