import Gatehouse.Proofs.Database.Migration
import Mathlib.Data.List.Chain

/-! What versions a list of migrations may have, and which fault is reported in a list that may not
be run: that of the first migration that breaks the order, of the first kind that it is at fault in.
-/
namespace Gatehouse.Database.Migration

/-- Versions are positive and each is above the one right before it. -/
structure Ascends (versions : List Int) : Prop where
  positive : ∀ version ∈ versions, 0 < version
  rising : versions.IsChain (· < ·)

/-- What is said against a version that comes after others: a fault further down the list is only
mentioned where those above it do not apply. -/
inductive Objection (before : List Int) (version : Int) (name : String) : String → Prop where
  | notPositive (h : version ≤ 0) :
    Objection before version name s!"Migration {name} has non-positive version {version}"
  | duplicate (h : 0 < version) (hseen : version ∈ before) :
    Objection before version name s!"Duplicate migration version {version}"
  | outOfOrder (previous : Int) (h : 0 < version) (hnew : version ∉ before)
      (hprevious : before.getLast? = some previous) (hless : version < previous) :
    Objection before version name
      s!"Migration {name} (version {version}) is listed after version {previous}"

variable {before : List Int} {version : Int} {name reason : String}

namespace Ascends

theorem nil : Ascends [] := ⟨by simp, .nil⟩

theorem append_singleton_iff :
    Ascends (before ++ [version]) ↔
      Ascends before ∧ 0 < version ∧ ∀ previous ∈ before.getLast?, previous < version := by
  constructor
  · intro h
    obtain ⟨hbefore, -, hlast⟩ := List.isChain_append.mp h.rising
    have hpositive : ∀ v ∈ before, 0 < v := fun v hv => h.positive v (by simp [hv])
    have hversion : 0 < version := h.positive version (by simp)
    exact ⟨⟨hpositive, hbefore⟩, hversion, by simpa using hlast⟩
  · rintro ⟨h, hversion, hlast⟩
    constructor
    · simpa [or_imp, forall_and, hversion] using h.positive
    · simpa [List.isChain_append, h.rising] using hlast

theorem of_append {later : List Int} (h : Ascends (before ++ later)) : Ascends before :=
  ⟨fun version hversion => h.positive version (by simp [hversion]), h.rising.left_of_append⟩

/-- The last version is the greatest. -/
theorem le_getLast {previous : Int} (h : Ascends before) (hlast : before.getLast? = some previous) :
    ∀ v ∈ before, v ≤ previous := by
  intro v hv
  obtain ⟨front, rfl⟩ := List.getLast?_eq_some_iff.mp hlast
  have hpairwise := List.isChain_iff_pairwise.mp h.rising
  have hfront := (List.pairwise_append.mp hpairwise).2.2
  rcases List.mem_append.mp hv with hv | hv
  · have hless := hfront v hv previous (by simp)
    omega
  · simp at hv
    omega

end Ascends

/-! ## One version after others -/

/-- Where the versions before it rise, to be new and not below the last is to be above all. -/
theorem fault?_eq_none_iff_ascends (name : String) (h : Ascends before) :
    fault? before.reverse version name = none ↔ Ascends (before ++ [version]) := by
  rw [fault?_eq_none_iff, Ascends.append_singleton_iff]
  simp only [List.mem_reverse, List.head?_reverse, h, true_and]
  apply and_congr_right
  intro _
  constructor
  · rintro ⟨hnew, hnotBelow⟩ previous hlast
    have hne : previous ≠ version := by
      rintro rfl
      exact hnew (List.mem_of_getLast? hlast)
    have hle := hnotBelow previous hlast
    omega
  · intro habove
    constructor
    · intro hseen
      cases hlast : before.getLast? with
      | none => simp_all
      | some previous =>
        have hle := h.le_getLast hlast version hseen
        have hless := habove previous hlast
        omega
    · intro previous hlast
      have hless := habove previous hlast
      omega

theorem fault?_eq_some_iff :
    fault? before.reverse version name = some reason ↔ Objection before version name reason := by
  constructor
  · intro h
    unfold fault? at h
    split at h
    · rename_i hversion
      obtain rfl := Option.some.inj h
      exact .notPositive hversion
    · rename_i hversion
      split at h
      · rename_i hseen
        obtain rfl := Option.some.inj h
        exact .duplicate (by omega) (by simpa using hseen)
      · rename_i hnew
        split at h
        · rename_i previous front hreverse
          split at h
          · rename_i hless
            obtain rfl := Option.some.inj h
            have hlast : before.getLast? = some previous := by
              rw [← List.head?_reverse, hreverse, List.head?_cons]
            exact .outOfOrder previous (by omega) (by simpa using hnew) hlast hless
          · contradiction
        · contradiction
  · rintro (hversion | ⟨hversion, hseen⟩ | ⟨previous, hversion, hnew, hlast, hless⟩)
    · simp [fault?, hversion]
    · simp [fault?, hseen, Int.not_le.mpr hversion]
    · obtain ⟨front, rfl⟩ := List.getLast?_eq_some_iff.mp hlast
      simp_all [fault?, Int.not_le.mpr hversion]

/-- After versions that rise, something is said against those that do not go on rising. -/
theorem objection_iff_not_ascends (h : Ascends before) :
    (∃ reason, Objection before version name reason) ↔ ¬ Ascends (before ++ [version]) := by
  simp only [← fault?_eq_some_iff, ← fault?_eq_none_iff_ascends name h,
    ← Option.isSome_iff_exists, ← Option.isSome_iff_ne_none]

/-! ## A whole list -/

theorem checkAfter_eq_ok_iff {versions : List (Int × String)} (h : Ascends before) :
    checkAfter before.reverse versions = .ok () ↔ Ascends (before ++ versions.map Prod.fst) := by
  induction versions generalizing before with
  | nil => simp [checkAfter, h]
  | cons first rest ih =>
    obtain ⟨version, name⟩ := first
    rw [checkAfter]
    cases hfault : fault? before.reverse version name with
    | none =>
      have hnext := (fault?_eq_none_iff_ascends name h).mp hfault
      simpa using ih hnext
    | some reason =>
      have hnext := (objection_iff_not_ascends h).mp ⟨reason, fault?_eq_some_iff.mp hfault⟩
      simp only [reduceCtorEq, false_iff]
      intro hall
      have hall : Ascends (before ++ [version] ++ rest.map Prod.fst) := by simpa using hall
      exact hnext hall.of_append

/-- Versions that rise are passed over. -/
theorem checkAfter_append {front back : List (Int × String)}
    (h : Ascends (before ++ front.map Prod.fst)) :
    checkAfter before.reverse (front ++ back) =
      checkAfter (before ++ front.map Prod.fst).reverse back := by
  induction front generalizing before with
  | nil => simp
  | cons first rest ih =>
    obtain ⟨version, name⟩ := first
    have hrest : Ascends (before ++ [version] ++ rest.map Prod.fst) := by simpa using h
    have hnext := hrest.of_append
    have hfault := (fault?_eq_none_iff_ascends name hnext.of_append).mpr hnext
    rw [List.cons_append, checkAfter, hfault]
    simpa using ih hrest

theorem checkAfter_eq_error_iff {versions : List (Int × String)} {e : MigrationError}
    (h : Ascends before) :
    checkAfter before.reverse versions = .error e ↔
      ∃ front version name back reason, versions = front ++ (version, name) :: back ∧
        Ascends (before ++ front.map Prod.fst) ∧
        ¬ Ascends (before ++ front.map Prod.fst ++ [version]) ∧
        Objection (before ++ front.map Prod.fst) version name reason ∧ e = .failed reason := by
  constructor
  · intro herror
    induction versions generalizing before with
    | nil => simp [checkAfter] at herror
    | cons first rest ih =>
      obtain ⟨version, name⟩ := first
      rw [checkAfter] at herror
      cases hfault : fault? before.reverse version name with
      | some reason =>
        have hobjection := fault?_eq_some_iff.mp hfault
        have hnot := (objection_iff_not_ascends h).mp ⟨reason, hobjection⟩
        refine ⟨[], version, name, rest, reason, rfl, ?_⟩
        simp_all
      | none =>
        have hnext := (fault?_eq_none_iff_ascends name h).mp hfault
        have hrest : checkAfter (before ++ [version]).reverse rest = .error e := by
          simpa [hfault] using herror
        obtain ⟨front, broken, called, back, reason, rfl, hfront⟩ := ih hnext hrest
        refine ⟨(version, name) :: front, broken, called, back, reason, rfl, ?_⟩
        simpa using hfront
  · rintro ⟨front, version, name, back, reason, rfl, hfront, -, hobjection, rfl⟩
    rw [checkAfter_append hfront, checkAfter, fault?_eq_some_iff.mpr hobjection]

/-- Exactly the lists of positive versions that rise are accepted. In any other list the fault is
that of the first version up to which the list does not rise. -/
theorem checkVersions_outcome (versions : List (Int × String)) :
    (checkVersions versions = .ok () ↔ Ascends (versions.map Prod.fst)) ∧
    ∀ e, checkVersions versions = .error e ↔
      ∃ before version name after reason, versions = before ++ (version, name) :: after ∧
        Ascends (before.map Prod.fst) ∧ ¬ Ascends (before.map Prod.fst ++ [version]) ∧
        Objection (before.map Prod.fst) version name reason ∧ e = .failed reason :=
  ⟨checkAfter_eq_ok_iff Ascends.nil, fun _ => checkAfter_eq_error_iff Ascends.nil⟩

/-- The second migration is at fault before the third, and is not the one that comes twice. -/
example : checkVersions [(2, "users"), (1, "roles"), (2, "again"), (0, "none")] =
    .error (.failed "Migration roles (version 1) is listed after version 2") := rfl

end Gatehouse.Database.Migration
