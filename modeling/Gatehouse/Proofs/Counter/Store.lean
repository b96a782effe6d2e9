import Gatehouse.Counter.Store

/-! What a reader sees of a store after each operation, at that time and at any later one. Removing
slots that have expired, on reading or by purging, is never seen. -/
namespace Gatehouse.Counter

variable {now later : Uptime} {key k : String}

/-- A slot that is seen later was seen before. -/
theorem Slot.isLive_of_le {s : Slot} (h : now ≤ later) (hs : s.isLive later = true) :
    s.isLive now = true := by
  unfold Slot.isLive at hs ⊢
  split
  · rfl
  · rename_i deadline hdeadline
    rw [hdeadline] at hs
    simp only [decide_eq_true_eq] at hs ⊢
    exact Nat.lt_of_le_of_lt h hs

theorem Slot.filter_isLive (h : now ≤ later) (slot : Option Slot) :
    (slot.filter (·.isLive now)).filter (·.isLive later) = slot.filter (·.isLive later) := by
  rw [Option.filter_filter]
  congr 1
  funext s
  cases hlive : s.isLive later with
  | true => simp [Slot.isLive_of_le h hlive]
  | false => simp

namespace Store

theorem lt_limit_of_deadlineAfter {ttl : Span} {deadline : Uptime}
    (h : deadlineAfter now ttl = some deadline) : deadline < Uptime.limit := by
  unfold deadlineAfter at h
  split at h
  · cases h
    assumption
  · contradiction

variable (s : Store)

theorem counted_none (ttl : Option Span) : counted now ttl none = freshSlot now ttl := rfl

theorem counted_some (ttl : Option Span) {slot : Slot} (h : 1 ≤ slot.value) :
    counted now ttl (some slot) = ⟨min (slot.value + 1) ceiling, slot.deadline⟩ := by
  have hne : slot.value ≠ 0 := Nat.ne_of_gt h
  simp [counted, hne]

theorem live?_eq_none_iff :
    s.live? now key = none ↔ ∀ slot, s.slots[key]? = some slot → slot.isLive now = false := by
  simp [live?]

/-- What is not seen is not seen later. -/
theorem live?_eq_none_of_le (h : now ≤ later) (hs : s.live? now key = none) :
    s.live? later key = none := by
  rw [live?_eq_none_iff] at hs ⊢
  intro slot hslot
  have hdead := hs slot hslot
  cases hlive : slot.isLive later with
  | false => rfl
  | true => rw [Slot.isLive_of_le h hlive] at hdead; contradiction

@[simp] theorem live?_empty : empty.live? now key = none := by
  simp [live?, empty]

theorem live?_insert (slot : Slot) :
    live? ⟨s.slots.insert k slot⟩ now key =
      if k = key then (some slot).filter (·.isLive now) else s.live? now key := by
  unfold live?
  simp only [Std.ExtTreeMap.getElem?_insert, Std.LawfulEqCmp.compare_eq_iff_eq]
  split <;> rfl

theorem live?_erase :
    live? ⟨s.slots.erase k⟩ now key = if k = key then none else s.live? now key := by
  unfold live?
  simp only [Std.ExtTreeMap.getElem?_erase, Std.LawfulEqCmp.compare_eq_iff_eq]
  split <;> rfl

theorem live?_settle (h : now ≤ later) : (s.settle now k).live? later key = s.live? later key := by
  unfold settle
  split
  · rfl
  · rename_i hdead
    rw [live?_erase]
    split
    · rename_i heq
      subst heq
      exact (live?_eq_none_of_le s h hdead).symm
    · rfl

theorem increment_fst (ttl : Option Span) :
    (s.increment now k ttl).1 = (counted now ttl (s.live? now k)).value := rfl

theorem live?_increment (ttl : Option Span) :
    (s.increment now k ttl).2.live? later key =
      if k = key then (some (counted now ttl (s.live? now k))).filter (·.isLive later)
      else s.live? later key :=
  live?_insert s _

theorem live?_setFlag (ttl : Span) :
    (s.setFlag now k ttl).live? later key =
      if k = key then (some (freshSlot now (some ttl))).filter (·.isLive later)
      else s.live? later key :=
  live?_insert s _

theorem slots_delete (h : k ≠ key) : (s.delete now k).2.slots[key]? = s.slots[key]? := by
  simp [delete, Std.ExtTreeMap.getElem?_erase, h]

theorem live?_delete :
    (s.delete now k).2.live? later key = if k = key then none else s.live? later key :=
  live?_erase s

theorem live?_purge (h : now ≤ later) : (s.purge now).2.live? later key = s.live? later key := by
  have hfilter : (s.slots.filter fun _ slot => slot.isLive now)[key]? =
      s.slots[key]?.filter (·.isLive now) := by
    rw [Std.ExtTreeMap.getElem?_filter']
  unfold purge live?
  rw [hfilter, Slot.filter_isLive h]

/-! ## What a key shows from now on -/

variable {s} {slot : Option Slot}

/-- From now on a key shows a slot for as long as that is live, or nothing if there is none. -/
def Shows (s : Store) (now : Uptime) (key : String) (slot : Option Slot) : Prop :=
  ∀ later, now ≤ later → s.live? later key = slot.filter (·.isLive later)

theorem shows_empty : empty.Shows now key none := fun _ _ => live?_empty

theorem Shows.live? (h : s.Shows now key slot) :
    s.live? now key = slot.filter (·.isLive now) :=
  h now (Nat.le_refl _)

/-- A slot that is seen is shown for as long as it is live. -/
theorem shows_of_live? {seen : Slot} (h : s.live? now key = some seen) :
    s.Shows now key (some seen) := by
  intro later hlater
  have hlater' : s.live? later key = (s.live? now key).filter (·.isLive later) :=
    (Slot.filter_isLive hlater _).symm
  rw [hlater', h]

theorem Shows.of_le (h : s.Shows now key slot) (hle : now ≤ later) : s.Shows later key slot :=
  fun last hlast => h last (Nat.le_trans hle hlast)

theorem Shows.congr {other : Store} (h : s.Shows now key slot)
    (hsame : ∀ later, now ≤ later → other.live? later key = s.live? later key) :
    other.Shows now key slot :=
  fun later hlater => (hsame later hlater).trans (h later hlater)

theorem shows_increment (s : Store) (ttl : Option Span) :
    (s.increment now key ttl).2.Shows now key (some (counted now ttl (s.live? now key))) := by
  intro later _
  rw [live?_increment, if_pos rfl]

theorem shows_setFlag (s : Store) (ttl : Span) :
    (s.setFlag now key ttl).Shows now key (some (freshSlot now (some ttl))) := by
  intro later _
  rw [live?_setFlag, if_pos rfl]

theorem shows_delete (s : Store) : (s.delete now key).2.Shows now key none := by
  intro later _
  rw [live?_delete, if_pos rfl]
  rfl

theorem Shows.increment (h : s.Shows now key slot) (hk : k ≠ key) (ttl : Option Span) :
    (s.increment now k ttl).2.Shows now key slot :=
  h.congr fun later _ => by rw [live?_increment, if_neg hk]

theorem Shows.setFlag (h : s.Shows now key slot) (hk : k ≠ key) (ttl : Span) :
    (s.setFlag now k ttl).Shows now key slot :=
  h.congr fun later _ => by rw [live?_setFlag, if_neg hk]

theorem Shows.delete (h : s.Shows now key slot) (hk : k ≠ key) :
    (s.delete now k).2.Shows now key slot :=
  h.congr fun later _ => by rw [live?_delete, if_neg hk]

theorem Shows.purge (h : s.Shows now key slot) : (s.purge now).2.Shows now key slot :=
  h.congr fun _ hlater => live?_purge s hlater

/-- No reader from now on tells one store from the other. -/
def SeenAs (now : Uptime) (s t : Store) : Prop :=
  ∀ later, now ≤ later → ∀ key, s.live? later key = t.live? later key

theorem SeenAs.refl (s : Store) : s.SeenAs now s := fun _ _ _ => rfl

theorem SeenAs.trans {t u : Store} (h : SeenAs now s t) (h' : SeenAs now t u) : SeenAs now s u :=
  fun later hlater key => (h later hlater key).trans (h' later hlater key)

end Store

/-- A store at a time. -/
structure Timed where
  now : Uptime
  store : Store

end Gatehouse.Counter
