import Gatehouse.Proofs.Guard.Blocking
import Gatehouse.Proofs.Guard.Faults

/-! The level of an origin where the store may fail. The level is raised before the block is stored,
and a block that cannot be stored does not lower it again. So the level tells how many blocks were
tried, and the next one is as long as if all of them had come about. -/
namespace Gatehouse.Guard

open Counter (Agree Key Operation Store Timed Try Write)

def isFlag (key : Key) : Write → Bool
  | .setFlag k _ => k = key
  | _ => false

namespace Side

/-- The sanctions that were tried, each of a length, whether or not they could be stored. -/
def sentences (side : Side) (journal : List Try) : List Try :=
  journal.filter fun entry => isFlag side.flag entry.write

theorem sentences_append (side : Side) (first rest : List Try) :
    side.sentences (first ++ rest) = side.sentences first ++ side.sentences rest :=
  List.filter_append _ _

theorem sentences_after_count (c : Config) (side : Side) (rest : List Try) :
    side.sentences (⟨side.counting c, true⟩ :: side.raising.map (⟨·, true⟩) ++ rest) =
      side.sentences rest := by
  cases side <;> rfl

theorem sentences_setFlag (side : Side) (length : Span) (worked : Bool) (rest : List Try) :
    side.sentences (⟨.setFlag side.flag length, worked⟩ :: rest) =
      ⟨.setFlag side.flag length, worked⟩ :: side.sentences rest :=
  List.filter_cons_of_pos (decide_eq_true rfl)

theorem owns_flag (side : Side) : side.owns side.flag = true := by
  cases side <;> simp [flag, owns]

theorem eq_setFlag_of_mem_sentences {side : Side} {journal : List Try} {entry : Try}
    (h : entry ∈ side.sentences journal) : ∃ length, entry.write = .setFlag side.flag length := by
  obtain ⟨-, hflag⟩ := List.mem_filter.mp h
  unfold isFlag at hflag
  split at hflag
  · rename_i k length heq
    exact ⟨length, heq.trans (congrArg (Write.setFlag · length) (of_decide_eq_true hflag))⟩
  · contradiction

end Side

theorem Incident.sentences_other {c : Config} {t : Timed} {side other : Side}
    {fails : Operation → String → Bool} (h : side ≠ other) :
    other.sentences ((failure side fails).tries c t) = [] := by
  refine List.eq_nil_iff_forall_not_mem.mpr fun entry hentry => h ?_
  obtain ⟨length, hwrite⟩ := Side.eq_setFlag_of_mem_sentences hentry
  have hown : other.owns entry.write.key = true := by
    rw [hwrite]
    exact other.owns_flag
  obtain ⟨_, heq⟩ := side_of_mem (List.mem_filter.mp hentry).1 hown
  exact (Incident.failure.inj heq).1

namespace Blocking

/-- The level of an origin after so many raises. -/
def ShowsLevel (name : String) (raises : Nat) (t : Timed) : Prop :=
  t.store.Shows t.now (Key.originBlockLevel name).text (levelSlot (min raises Counter.ceiling))

/-- What one incident makes of an origin's level and of its block, next to the blocks that it tries:
none; one that cannot be stored, and raises the level all the same; one that is in force. -/
inductive Trial (c : Config) (name : String) (raises : Nat) (t after : Timed) : List Try → Prop
  | rest (hlevel : ShowsLevel name raises after)
    (hblock : Agree (· = .originBlock name) after.now after.store t.store) :
    Trial c name raises t after []
  | lost (hlevel : ShowsLevel name (raises + 1) after)
    (hblock : Agree (· = .originBlock name) after.now after.store t.store) :
    Trial c name raises t after
      [⟨.setFlag (.originBlock name) (c.blockDuration ((raises + 1 : Nat) : Int)), false⟩]
  | blocked (hlevel : ShowsLevel name (raises + 1) after)
    (hblock : after.store.Shows after.now (Key.originBlock name).text
      (some (Store.freshSlot after.now (some (c.blockDuration ((raises + 1 : Nat) : Int)))))) :
    Trial c name raises t after
      [⟨.setFlag (.originBlock name) (c.blockDuration ((raises + 1 : Nat) : Int)), true⟩]

variable {c : Config} {name : String} {raises : Nat} {now : Uptime} {store after : Store}
  {t : Timed}

/-- A raise answers the level that it leaves, and that sets the length of the block. -/
theorem raised_of_showsLevel (h : ShowsLevel name raises ⟨now, store⟩) :
    (Side.origin name).nextLength c now store = c.blockDuration ((raises + 1 : Nat) : Int) ∧
      ShowsLevel name (raises + 1) ⟨now, (Side.origin name).raised now store⟩ := by
  obtain ⟨hanswer, hraised⟩ := Tracks.raise h
  have hlevel : min (min raises Counter.ceiling + 1) Counter.ceiling =
      min (raises + 1) Counter.ceiling := by omega
  rw [hlevel] at hanswer hraised
  refine ⟨?_, hraised⟩
  rw [Side.nextLength, hanswer]
  exact c.blockDuration_min (raises + 1) 0

/-- On each course of a record the level is raised right before the block is tried. -/
theorem trial_course {tries : List Try} {answer : Except Error (Option Span)}
    (h : Side.Course c (.origin name) now store tries answer after)
    (hlevel : ShowsLevel name raises ⟨now, store⟩) :
    Trial c name raises ⟨now, store⟩ ⟨now, after⟩ ((Side.origin name).sentences tries) := by
  have hcounted : ShowsLevel name raises ⟨now, (Side.origin name).recounted c now store⟩ :=
    hlevel.increment Tracks.attempts_ne_level _
  have hblock : Agree (· = .originBlock name) now ((Side.origin name).recounted c now store)
      store := by
    intro key hkey later _
    obtain rfl : key = .originBlock name := of_decide_eq_true hkey
    exact (store.live?_increment _).trans (if_neg Tracks.attempts_ne_block)
  obtain ⟨hlength, hraised⟩ := raised_of_showsLevel (c := c) hcounted
  have hblock' : Agree (· = .originBlock name) now
      ((Side.origin name).raised now ((Side.origin name).recounted c now store)) store := by
    intro key hkey later hlater
    rw [← hblock key hkey later hlater]
    obtain rfl : key = .originBlock name := of_decide_eq_true hkey
    exact (Store.live?_increment _ none).trans (if_neg Tracks.block_ne_level.symm)
  cases h with
  | uncounted => exact .rest hlevel (.refl store)
  | below hbelow => exact .rest hcounted hblock
  | unraised w hw hreached =>
    obtain rfl := List.mem_singleton.mp hw
    exact .rest hcounted hblock
  | unpunished hreached =>
    rw [hlength, Side.sentences_after_count, Side.sentences_setFlag]
    exact .lost hraised hblock'
  | unwiped hreached =>
    rw [hlength, Side.sentences_after_count, Side.sentences_setFlag]
    exact .blocked (hraised.setFlag Tracks.block_ne_level _) (Store.shows_setFlag _ _)
  | complete hreached =>
    rw [hlength, Side.sentences_after_count, Side.sentences_setFlag]
    exact .blocked ((hraised.setFlag Tracks.block_ne_level _).delete Tracks.attempts_ne_level)
      ((Store.shows_setFlag _ _).delete Tracks.attempts_ne_block)

/-- Whatever happens is one of these trials; to a failure of another side the origin is nothing. -/
theorem trial_next (hc : c.enabled = true) (hlevel : ShowsLevel name raises t) (i : Incident) :
    Trial c name raises t (i.next c t) ((Side.origin name).sentences (i.tries c t)) := by
  cases i with
  | purge => exact .rest hlevel.purge (Counter.agree_purge t.store)
  | advance d => exact .rest (hlevel.of_le (Nat.le_add_right t.now d.nanos)) (.refl t.store)
  | failure side fails =>
    by_cases hside : side = .origin name
    · subst hside
      exact trial_course (Side.course hc _ ⟨t.now, fails⟩ t.store) hlevel
    · have hsame := Side.agree_half (c := c) hside ⟨t.now, fails⟩ t.store
      rw [Incident.sentences_other hside]
      refine .rest (hlevel.congr (hsame _ (decide_eq_true rfl))) fun key hkey => hsame key ?_
      rw [of_decide_eq_true hkey]
      exact Side.owns_flag _

/-! ## Runs -/

/-- Blocks that were tried one after another, each of the length of the next level. -/
def Lawful (c : Config) (name : String) (raises : Nat) (sentences : List Try) : Prop :=
  ∀ (k : Nat) (entry : Try), sentences[k]? = some entry →
    entry.write = .setFlag (.originBlock name) (c.blockDuration ((raises + k + 1 : Nat) : Int))

theorem Lawful.append {first rest : List Try} (hfirst : Lawful c name raises first)
    (hrest : Lawful c name (raises + first.length) rest) :
    Lawful c name raises (first ++ rest) := by
  intro k entry hk
  rcases Nat.lt_or_ge k first.length with hlt | hge
  · exact hfirst k entry ((List.getElem?_append_left hlt).symm.trans hk)
  · have hlater := hrest _ entry ((List.getElem?_append_right hge).symm.trans hk)
    rwa [Nat.add_assoc raises, Nat.add_sub_cancel' hge] at hlater

theorem Trial.counts {after : Timed} {sentences : List Try}
    (h : Trial c name raises t after sentences) :
    ShowsLevel name (raises + sentences.length) after ∧ Lawful c name raises sentences := by
  have hlone (worked : Bool) : Lawful c name raises
      [⟨.setFlag (.originBlock name) (c.blockDuration ((raises + 1 : Nat) : Int)), worked⟩] := by
    intro k entry hk
    cases k with
    | zero => exact congrArg Try.write (Option.some.inj hk).symm
    | succ k => contradiction
  cases h with
  | rest hlevel => exact ⟨hlevel, fun k entry hk => by simp at hk⟩
  | lost hlevel => exact ⟨hlevel, hlone false⟩
  | blocked hlevel => exact ⟨hlevel, hlone true⟩

theorem counts_outcome (hc : c.enabled = true) (hlevel : ShowsLevel name raises t)
    (incidents : List Incident) :
    let sentences := (Side.origin name).sentences (Incident.journal c t incidents)
    ShowsLevel name (raises + sentences.length) (Incident.outcome c t incidents) ∧
      Lawful c name raises sentences := by
  induction incidents generalizing t raises with
  | nil => exact ⟨hlevel, fun k entry hk => by contradiction⟩
  | cons i rest ih =>
    obtain ⟨hnext, hfirst⟩ := (trial_next hc hlevel i).counts
    obtain ⟨hlast, hrest⟩ := ih hnext
    rw [Incident.journal, Side.sentences_append]
    refine ⟨?_, hfirst.append hrest⟩
    rw [List.length_append, ← Nat.add_assoc]
    exact hlast

theorem ShowsLevel.inj {m n : Nat} (hm : ShowsLevel name m t) (hn : ShowsLevel name n t) :
    min m Counter.ceiling = min n Counter.ceiling := by
  have hlive (level : Nat) : (levelSlot level).filter (·.isLive t.now) = levelSlot level := by
    unfold levelSlot
    split <;> rfl
  have hsame := hm.live?.symm.trans hn.live?
  rw [hlive, hlive] at hsame
  have hvalue (level : Nat) : ((levelSlot level).map Counter.Slot.value).getD 0 = level := by
    unfold levelSlot
    split
    · rename_i h
      exact h.symm
    · rfl
  rw [← hvalue (min m Counter.ceiling), hsame, hvalue]

end Blocking

open Blocking Incident in
/-- An origin's level is the number of its blocks that were tried, whether or not they could be
stored, and each of them is of the length of its place among all. A failure that comes to no block
leaves the level and the block alone, and one whose block cannot be stored leaves the block but has
raised the level; so the level is the number of blocks that were stored only as long as all were. -/
theorem level_counts_sentences (c : Config) (hc : c.enabled = true) (name : String) (start : Uptime)
    (incidents : List Incident) :
    let t := outcome c ⟨start, .empty⟩ incidents
    let sentences := (Side.origin name).sentences (journal c ⟨start, .empty⟩ incidents)
    ShowsLevel name sentences.length t ∧
      (∀ (k : Nat) (entry : Try), sentences[k]? = some entry →
        entry.write = .setFlag (.originBlock name) (c.blockDuration ((k + 1 : Nat) : Int))) ∧
      (∀ i : Incident, Trial c name sentences.length t (i.next c t)
        ((Side.origin name).sentences (i.tries c t))) ∧
      (sentences.length ≤ Counter.ceiling →
        (ShowsLevel name (sentences.countP Try.worked) t ↔
          ∀ entry ∈ sentences, entry.worked = true)) := by
  intro t sentences
  have hempty : ShowsLevel name 0 ⟨start, .empty⟩ := Store.shows_empty
  obtain ⟨hlevel, hlawful⟩ := counts_outcome hc hempty incidents
  rw [Nat.zero_add] at hlevel
  refine ⟨hlevel, fun k entry hk => ?_, trial_next hc hlevel, fun hle => ?_⟩
  · have hentry := hlawful k entry hk
    rwa [Nat.zero_add] at hentry
  rw [← List.countP_eq_length]
  refine ⟨fun hstored => ?_, fun hall => ?_⟩
  · -- The level cannot show two numbers, so as many blocks were stored as were tried.
    have hsame := hstored.inj hlevel
    have hcount : sentences.countP Try.worked ≤ sentences.length := List.countP_le_length
    rw [Nat.min_eq_left hle, Nat.min_eq_left (Nat.le_trans hcount hle)] at hsame
    exact hsame
  · exact hall ▸ hlevel

namespace Sample

/-- Each failure blocks an origin, for a minute at first. -/
def oneStrike : Config := Config.default.withOriginLimits 1 (.ofSeconds 900) (.ofSeconds 60)

/-- The level is one though no block has been stored, and the first block that is lasts for as long
as a second one. -/
theorem level_without_block :
    let failed := (recordOriginFailure oneStrike "here").run ⟨0, flagFault⟩ .empty
    let blocked := (recordOriginFailure oneStrike "here").run ⟨0, noFault⟩ failed.2
    oneStrike.enabled = true ∧ oneStrike.resetOnSuccess = false ∧ failed.1.toOption = none ∧
      failed.2.live? 0 (Key.originBlock "here").text = none ∧
      failed.2.live? 0 (Key.originBlockLevel "here").text = some ⟨1, none⟩ ∧
      blocked.1.toOption = some (some (.ofSeconds 120)) ∧
      blocked.2.live? 0 (Key.originBlock "here").text =
        some (Store.freshSlot 0 (some (.ofSeconds 120))) ∧
      oneStrike.blockDuration 1 = .ofSeconds 60 := by
  decide +kernel

def twoFailures : List Incident :=
  [.failure (.origin "here") flagFault, .failure (.origin "here") noFault]

theorem sentences_twoFailures :
    (Side.origin "here").sentences (Incident.journal oneStrike ⟨0, .empty⟩ twoFailures) =
      [⟨.setFlag (.originBlock "here") (.ofSeconds 60), false⟩,
        ⟨.setFlag (.originBlock "here") (.ofSeconds 120), true⟩] := by
  decide +kernel

/-- Two blocks were tried and one is in force; the level is two. -/
theorem level_two_of_one_block :
    let t := Incident.outcome oneStrike ⟨0, .empty⟩ twoFailures
    oneStrike.enabled = true ∧ Blocking.ShowsLevel "here" 2 t ∧
      ¬Blocking.ShowsLevel "here" 1 t := by
  intro t
  obtain ⟨hlevel, -, -, hall⟩ := level_counts_sentences oneStrike (by decide) "here" 0 twoFailures
  rw [sentences_twoFailures] at hlevel hall
  refine ⟨by decide, hlevel, fun hone => ?_⟩
  have hstored := (hall (by decide)).mp hone _ List.mem_cons_self
  contradiction

end Sample

end Gatehouse.Guard
