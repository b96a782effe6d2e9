import Gatehouse.Proofs.Database.History

/-! Who is a user at present, told by the history alone: whoever was created and has not been
deleted since, with the last hash that was put. Ids are given out in ascending order, so none is
given out twice, and no two users are alike in id or username. -/
namespace Gatehouse.Database

/-! ## The history of an id -/

/-- What a deed makes of the user who has an id so far. -/
def Deed.upon (id : UserId) (holder : Option User) : Deed → Option User
  | created user => if user.id = id then some user else holder
  | updated other hash second =>
    if other = id then holder.map (rehashed · hash second) else holder
  | deleted other => if other = id then none else holder
  | roleMade _ | granted _ _ | assigned _ _ => holder

/-- The user who has an id after some deeds. -/
def standing (deeds : List Deed) (id : UserId) : Option User := deeds.foldl (Deed.upon id) none

def Deed.newcomer? : Deed → Option UserId
  | created user => some user.id
  | _ => none

def newcomers (deeds : List Deed) : List UserId := deeds.filterMap Deed.newcomer?

variable {deeds : List Deed} {id : UserId}

theorem standing_concat (deeds : List Deed) (deed : Deed) (id : UserId) :
    standing (deeds ++ [deed]) id = deed.upon id (standing deeds id) := by
  rw [standing, List.foldl_append]
  rfl

theorem newcomers_append (deeds later : List Deed) :
    newcomers (deeds ++ later) = newcomers deeds ++ newcomers later :=
  List.filterMap_append

theorem mem_newcomers : id ∈ newcomers deeds ↔ ∃ user, .created user ∈ deeds ∧ user.id = id := by
  rw [newcomers, List.mem_filterMap]
  constructor
  · rintro ⟨deed, hdeed, hid⟩
    cases deed with
    | created user => exact ⟨user, hdeed, Option.some.inj hid⟩
    | _ => contradiction
  · rintro ⟨user, hdeed, rfl⟩
    exact ⟨_, hdeed, rfl⟩

/-- Nobody has an id as long as it is not given out. -/
theorem foldl_upon_none (h : id ∉ newcomers deeds) : deeds.foldl (Deed.upon id) none = none := by
  induction deeds with
  | nil => rfl
  | cons deed deeds ih =>
    rw [← List.singleton_append, newcomers_append, List.mem_append, not_or] at h
    have hdeed : deed.upon id none = none := by
      cases deed with
      | created user =>
        have hid : user.id ≠ id := fun hid => h.1 (List.mem_singleton.mpr hid.symm)
        exact if_neg hid
      | updated other hash second => simp [Deed.upon]
      | deleted other => simp [Deed.upon]
      | _ => rfl
    rw [List.foldl_cons, hdeed]
    exact ih h.2

/-- If ids are given out in ascending order, whoever was created and then deleted is gone. -/
theorem standing_of_deleted {user : User}
    (hascending : (newcomers deeds).Pairwise fun earlier later => earlier.value < later.value)
    (h : [.created user, .deleted user.id].Sublist deeds) : standing deeds user.id = none := by
  obtain ⟨before, rest, rfl, hcreated, hrest⟩ := List.cons_sublist_iff.mp h
  obtain ⟨between, later, rfl⟩ := List.append_of_mem (List.singleton_sublist.mp hrest)
  -- What comes after the deletion cannot give the id out again, as it would have to be greater.
  have hfresh : user.id ∉ newcomers later := by
    intro hagain
    obtain ⟨other, hother, hid⟩ := mem_newcomers.mp hagain
    rw [newcomers_append, List.pairwise_append] at hascending
    have hless := hascending.2.2 user.id (mem_newcomers.mpr ⟨user, hcreated, rfl⟩) user.id
      (mem_newcomers.mpr ⟨other, List.mem_append_right _ (List.mem_cons_of_mem _ hother), hid⟩)
    exact absurd hless (UInt64.lt_irrefl _)
  rw [standing, ← List.append_assoc, List.foldl_append, List.foldl_cons, Deed.upon, if_pos rfl]
  exact foldl_upon_none hfresh

/-! ## The rows of users -/

theorem UserId.toNat_inj {a b : UserId} : a.value.toNat = b.value.toNat ↔ a = b := by
  obtain ⟨a⟩ := a
  obtain ⟨b⟩ := b
  rw [UInt64.toNat_inj, UserId.mk.injEq]

/-- The rows of users agree with the history that has led to them. -/
structure Enrolled (deeds : List Deed) (users : Numbered User) : Prop where
  within : users.Within
  current (id : UserId) : users.rows[id.value.toNat]? = standing deeds id
  numbered (n : Nat) (user : User) (h : users.rows[n]? = some user) : user.id.value.toNat = n
  distinct (n k : Nat) (user other : User) (hn : users.rows[n]? = some user)
    (hk : users.rows[k]? = some other) (hname : user.username = other.username) : n = k
  ascending : (newcomers deeds).Pairwise fun earlier later => earlier.value < later.value
  given (id : UserId) (h : id ∈ newcomers deeds) : 0 < id.value.toNat ∧ id.value.toNat ≤ users.last

theorem enrolled_empty : Enrolled [] .empty where
  within := Numbered.within_empty
  current id := by simp [Numbered.empty, standing]
  numbered n user h := by simp [Numbered.empty] at h
  distinct n k user other hn := by simp [Numbered.empty] at hn
  ascending := .nil
  given id h := by simp [newcomers] at h

namespace Enrolled

variable {users : Numbered User}

/-- A deed by which nobody is added, and nobody gets another id or username. -/
theorem changed (h : Enrolled deeds users) {deed : Deed} (hnobody : deed.newcomer? = none)
    {rows : Std.ExtTreeMap Nat User}
    (hrows : ∀ (n : Nat) (user : User), rows[n]? = some user →
      ∃ old, users.rows[n]? = some old ∧ old.id = user.id ∧ old.username = user.username)
    (hcurrent : ∀ id : UserId, rows[id.value.toNat]? = deed.upon id (standing deeds id)) :
    Enrolled (deeds ++ [deed]) ⟨rows, users.last⟩ := by
  have hnewcomers : newcomers (deeds ++ [deed]) = newcomers deeds := by
    simp [newcomers, hnobody]
  refine ⟨⟨h.within.last_lt, fun n user huser => ?_⟩, fun id => ?_, fun n user huser => ?_,
    fun n k user other hn hk hname => ?_, ?_, ?_⟩
  · obtain ⟨old, hold, -⟩ := hrows n user huser
    exact h.within.number n old hold
  · rw [standing_concat]
    exact hcurrent id
  · obtain ⟨old, hold, hid, -⟩ := hrows n user huser
    rw [← hid]
    exact h.numbered n old hold
  · obtain ⟨old, hold, -, hsame⟩ := hrows n user hn
    obtain ⟨twin, htwin, -, hlike⟩ := hrows k other hk
    exact h.distinct n k old twin hold htwin (hsame.trans (hname.trans hlike.symm))
  · rw [hnewcomers]
    exact h.ascending
  · rw [hnewcomers]
    exact h.given

theorem apart (h : Enrolled deeds users) {deed : Deed} (hnobody : deed.newcomer? = none)
    (hupon : ∀ id holder, deed.upon id holder = holder) : Enrolled (deeds ++ [deed]) users :=
  h.changed hnobody (fun _ user huser => ⟨user, huser, rfl, rfl⟩)
    fun id => (h.current id).trans (hupon id _).symm

theorem created (h : Enrolled deeds users) {user : User}
    (hroom : users.last + 1 < Numbered.limit) (hid : user.id.value.toNat = users.last + 1)
    (hfree : ∀ (n : Nat) (other : User), users.rows[n]? = some other →
      other.username ≠ user.username) :
    Enrolled (deeds ++ [.created user]) (users.push user) where
  within := h.within.push hroom
  current id := by
    rw [standing_concat, Numbered.getElem?_push, h.current, ← hid]
    simp only [UserId.toNat_inj, Deed.upon]
  numbered n other hother := by
    rw [Numbered.getElem?_push] at hother
    split at hother
    · rename_i hn
      cases hother
      rw [hid, hn]
    · exact h.numbered n other hother
  distinct n k one other hn hk hname := by
    rw [Numbered.getElem?_push] at hn hk
    -- The new user differs in name from everyone who was there, and these differ as before.
    split at hn <;> split at hk
    · omega
    · cases hn
      exact absurd hname.symm (hfree k other hk)
    · cases hk
      exact absurd hname (hfree n one hn)
    · exact h.distinct n k one other hn hk hname
  ascending := by
    rw [newcomers_append, List.pairwise_append]
    refine ⟨h.ascending, List.pairwise_singleton _ _, fun earlier hearlier later hlater => ?_⟩
    cases List.mem_singleton.mp hlater
    rw [UInt64.lt_iff_toNat_lt, hid]
    exact Nat.lt_succ_of_le (h.given earlier hearlier).2
  given id hmem := by
    rw [newcomers_append, List.mem_append] at hmem
    obtain hmem | hmem := hmem
    · obtain ⟨hpos, hle⟩ := h.given id hmem
      exact ⟨hpos, Nat.le_succ_of_le hle⟩
    · cases List.mem_singleton.mp hmem
      rw [hid]
      exact ⟨Nat.succ_pos _, Nat.le_refl _⟩

theorem updated (h : Enrolled deeds users) {id : UserId} {hash : String} {second : Int}
    {user : User} (huser : users.rows[id.value.toNat]? = some user) :
    Enrolled (deeds ++ [.updated id hash second])
      ⟨users.rows.insert id.value.toNat (rehashed user hash second), users.last⟩ := by
  refine h.changed rfl (fun n other hother => ?_) fun other => ?_
  · rw [Std.ExtTreeMap.getElem?_insert] at hother
    split at hother
    · rename_i hn
      cases Std.LawfulEqCmp.eq_of_compare hn
      cases hother
      exact ⟨user, huser, rfl, rfl⟩
    · exact ⟨other, hother, rfl, rfl⟩
  · rw [Std.ExtTreeMap.getElem?_insert, ← h.current, Deed.upon]
    by_cases hid : id = other
    · subst hid
      simp [huser]
    · simp [hid, UserId.toNat_inj]

theorem deleted (h : Enrolled deeds users) (id : UserId) :
    Enrolled (deeds ++ [.deleted id]) (users.remove id.value.toNat) := by
  refine h.changed rfl (fun n user huser => ?_) fun other => ?_
  · rw [Std.ExtTreeMap.getElem?_erase] at huser
    split at huser
    · contradiction
    · exact ⟨user, huser, rfl, rfl⟩
  · rw [Std.ExtTreeMap.getElem?_erase, h.current, Deed.upon]
    simp [UserId.toNat_inj]

/-- No id that fits no row is anybody's. -/
theorem standing_of_limit_le (h : Enrolled deeds users) {id : UserId}
    (hnumber : Numbered.limit ≤ id.value.toNat) : standing deeds id = none := by
  rw [← h.current, h.within.getElem?_of_lt (Nat.lt_of_lt_of_le h.within.last_lt hnumber)]

theorem deletedNobody (h : Enrolled deeds users) {id : UserId}
    (hnumber : Numbered.limit ≤ id.value.toNat) : Enrolled (deeds ++ [.deleted id]) users := by
  refine h.changed rfl (fun n user huser => ⟨user, huser, rfl, rfl⟩) fun other => ?_
  rw [h.current, Deed.upon]
  split
  · rename_i hid
    rw [← hid, h.standing_of_limit_le hnumber]
  · rfl

/-- The rows are searched for a username with as much success as the history has it. -/
theorem find?_username (h : Enrolled deeds users) {username : String} {user : User} :
    (users.find? (·.username = username)).map Prod.snd = some user ↔
      standing deeds user.id = some user ∧ user.username = username := by
  rw [← h.current, Option.map_eq_some_iff]
  constructor
  · rintro ⟨⟨n, found⟩, hfound, rfl⟩
    obtain ⟨hrow, hname⟩ := Numbered.find?_eq_some hfound
    rw [h.numbered n found hrow]
    exact ⟨hrow, of_decide_eq_true hname⟩
  · rintro ⟨hrow, rfl⟩
    cases hfound : users.find? (·.username = user.username) with
    | none =>
      have hname := Numbered.find?_eq_none_iff.mp hfound user.id.value.toNat user hrow
      exact absurd rfl (of_decide_eq_false hname)
    | some entry =>
      obtain ⟨n, other⟩ := entry
      obtain ⟨hother, hname⟩ := Numbered.find?_eq_some hfound
      have hn := h.distinct n user.id.value.toNat other user hother hrow (of_decide_eq_true hname)
      rw [hn, hrow] at hother
      exact ⟨_, rfl, (Option.some.inj hother).symm⟩

end Enrolled

theorem enrolled_effect {r rows : Rows} {deed : Deed} (h : Enrolled deeds r.users)
    (heffect : Effect r deed rows) : Enrolled (deeds ++ [deed]) rows.users := by
  cases heffect with
  | created user hroom hid hfree => exact h.created hroom hid hfree
  | updated id hash second user huser => exact h.updated huser
  | deleted id hnumber => exact h.deleted id
  | deletedNobody id hnumber => exact h.deletedNobody hnumber
  | roleMade | granted | grantedNew | assigned => exact h.apart rfl fun _ _ => rfl

/-! ## Looking users up -/

section

variable {db : Database}

theorem answer_of_run {ε α : Type} {c : Change ε α} {answer : α} (after : Database)
    (h : StateT.run c db = .ok (answer, after)) : (c.run db).1 = .ok answer := by
  rw [Change.run, h]

/-- Whoever has an id at present is found under it. -/
theorem byId_eq (hlaid : db.IsLaid) (h : Enrolled deeds db.rows.users) (id : UserId) :
    db.directory.byId id = .ok (standing deeds id) := by
  unfold directory Accounts.findById Accounts.rowOf?
  by_cases hnumber : id.value.toNat < Numbered.limit
  · simp only [if_pos hnumber]
    have husers : db.schema.resolve ["users"] [] = .ok () := hlaid.resolve (by decide) (by decide)
    refine (answer_of_run db (run_mapError (run_query hlaid.isOpen husers))).trans ?_
    rw [h.current]
  · simp only [if_neg hnumber]
    rw [h.standing_of_limit_le (Nat.le_of_not_lt hnumber)]
    rfl

/-- Whoever has a username at present is found under it, and nobody else. -/
theorem byUsername_eq (hlaid : db.IsLaid) (h : Enrolled deeds db.rows.users) (username : String) :
    ∃ found, db.directory.byUsername username = .ok found ∧ ∀ user, found = some user ↔
      standing deeds user.id = some user ∧ user.username = username := by
  have husers : db.schema.resolve ["users"] [("users", "username")] = .ok () :=
    hlaid.resolve (by decide) (by decide)
  exact ⟨_, answer_of_run db (run_mapError (run_query hlaid.isOpen husers)),
    fun user => h.find?_username⟩

end

end Gatehouse.Database
