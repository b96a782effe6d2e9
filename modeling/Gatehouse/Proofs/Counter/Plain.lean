import Gatehouse.Counter.Sweep
import Gatehouse.Proofs.Counter.Store

/-! Expiry seen from outside. A store keeps a slot past its deadline until something happens to
remove it; a plain map loses the entry at that instant. No sequence of calls tells the two apart,
wherever the store is purged or swept in between, and a purge takes away just the slots that have
expired. -/
namespace Gatehouse.Counter

/-- Whether the deadline of a slot has come. -/
def Slot.isOver (s : Slot) (now : Uptime) : Bool := s.deadline.any (· ≤ now)

theorem Slot.isOver_eq (s : Slot) (now : Uptime) : s.isOver now = !s.isLive now := by
  unfold isOver isLive
  cases s.deadline with
  | none => rfl
  | some deadline =>
    rw [Option.any_some, ← decide_not]
    exact decide_eq_decide.mpr Nat.not_lt.symm

/-- What may be asked of a store. -/
inductive Call where
  | increment (key : String) (ttl : Option Span)
  | get (key : String)
  | setFlag (key : String) (ttl : Span)
  | contains (key : String)
  | remaining (key : String)
  | delete (key : String)

inductive Reply where
  | count (n : Nat)
  | value (n : Option Nat)
  | done
  | present (isThere : Bool)
  /-- The time left in nanoseconds. -/
  | left (nanos : Option Nat)
deriving DecidableEq

inductive Step where
  | call (c : Call)
  | advance (d : Span)

/-- What is done to a store for the sake of its size. -/
inductive Upkeep where
  | purge
  | beginSweep (interval : Span)
  | sweep (s : Sweep) (before : Uptime)

/-! ## The two sides -/

namespace Timed

def call (t : Timed) : Call → Reply × Timed
  | .increment key ttl =>
    let (n, store) := t.store.increment t.now key ttl
    (.count n, { t with store })
  | .get key =>
    let (n, store) := t.store.get t.now key
    (.value n, { t with store })
  | .setFlag key ttl => (.done, { t with store := t.store.setFlag t.now key ttl })
  | .contains key =>
    let (isThere, store) := t.store.contains t.now key
    (.present isThere, { t with store })
  | .remaining key =>
    let (left, store) := t.store.remaining t.now key
    (.left (left.map Span.nanos), { t with store })
  | .delete key =>
    let (wasThere, store) := t.store.delete t.now key
    (.present wasThere, { t with store })

def step (t : Timed) : Step → List Reply × Timed
  | .call c => ([(t.call c).1], (t.call c).2)
  | .advance d => ([], { t with now := t.now + d.nanos })

def keepUp (t : Timed) : Upkeep → Timed
  | .purge => { t with store := (t.store.purge t.now).2 }
  | .beginSweep interval => { t with store := (Sweep.begin interval t.now t.store).2 }
  | .sweep s before => { t with store := s.pass before t.now t.store }

/-- The replies to the calls of a run with upkeep anywhere in it, and the store at its end. -/
def run (t : Timed) : List (Step ⊕ Upkeep) → List Reply × Timed
  | [] => ([], t)
  | .inl e :: rest => ((t.step e).1 ++ ((t.step e).2.run rest).1, ((t.step e).2.run rest).2)
  | .inr u :: rest => (t.keepUp u).run rest

end Timed

/-- A map whose entries are gone as soon as their deadline has come. -/
structure Plain where
  now : Uptime
  entry : String → Option Slot

namespace Plain

def empty (now : Uptime) : Plain := ⟨now, fun _ => none⟩

/-- The map with an entry, unless that is gone at once. -/
def put (p : Plain) (key : String) (slot : Slot) : Plain :=
  { p with entry := fun k =>
      if k = key then (if slot.isOver p.now then none else some slot) else p.entry k }

def erase (p : Plain) (key : String) : Plain :=
  { p with entry := fun k => if k = key then none else p.entry k }

def advance (p : Plain) (d : Span) : Plain where
  now := p.now + d.nanos
  entry k := (p.entry k).filter (!·.isOver (p.now + d.nanos))

def call (p : Plain) : Call → Reply × Plain
  | .increment key ttl =>
    match p.entry key with
    | none => (.count 1, p.put key ⟨1, ttl.bind (deadlineAfter p.now)⟩)
    | some ⟨value, deadline⟩ =>
      (.count (min (value + 1) ceiling), p.put key ⟨min (value + 1) ceiling, deadline⟩)
  | .get key => (.value ((p.entry key).map Slot.value), p)
  | .setFlag key ttl => (.done, p.put key ⟨1, deadlineAfter p.now ttl⟩)
  | .contains key => (.present (p.entry key).isSome, p)
  | .remaining key => (.left ((p.entry key).bind fun slot => slot.deadline.map (· - p.now)), p)
  | .delete key => (.present (p.entry key).isSome, p.erase key)

def step (p : Plain) : Step → List Reply × Plain
  | .call c => ([(p.call c).1], (p.call c).2)
  | .advance d => ([], p.advance d)

def replies (p : Plain) : List Step → List Reply
  | [] => []
  | e :: rest => (p.step e).1 ++ (p.step e).2.replies rest

end Plain

/-! ## What is stored -/

/-- A slot that has been counted or set, with a deadline that the clock can express. -/
structure Slot.Sound (s : Slot) : Prop where
  pos : 1 ≤ s.value
  lt_limit (deadline : Uptime) (h : s.deadline = some deadline) : deadline < Uptime.limit

def Store.Sound (s : Store) : Prop :=
  ∀ (key : String) (slot : Slot), s.slots[key]? = some slot → slot.Sound

namespace Store

variable {s : Store} {now : Uptime} {key : String}

theorem sound_freshSlot (ttl : Option Span) : (freshSlot now ttl).Sound where
  pos := Nat.le_refl 1
  lt_limit deadline h := by
    obtain ⟨span, -, hspan⟩ := Option.bind_eq_some_iff.mp h
    exact lt_limit_of_deadlineAfter hspan

theorem sound_counted (ttl : Option Span) {slot : Option Slot}
    (h : ∀ old, slot = some old → old.Sound) : (counted now ttl slot).Sound := by
  cases slot with
  | none =>
    rw [counted_none]
    exact sound_freshSlot ttl
  | some old =>
    have hold := h old rfl
    rw [counted_some ttl hold.pos]
    refine ⟨?_, hold.lt_limit⟩
    exact Nat.le_min.mpr ⟨Nat.le_add_left 1 old.value, by decide⟩

theorem sound_empty : empty.Sound := by
  intro key slot h
  simp [empty] at h

theorem Sound.live? (h : s.Sound) (slot : Slot) (hlive : s.live? now key = some slot) :
    slot.Sound := by
  unfold Store.live? at hlive
  exact h key slot (Option.filter_eq_some_iff.mp hlive).1

theorem Sound.insert (h : s.Sound) {slot : Slot} (hslot : slot.Sound) :
    Sound ⟨s.slots.insert key slot⟩ := by
  intro k stored hstored
  simp only [Std.ExtTreeMap.getElem?_insert] at hstored
  split at hstored
  · cases hstored
    exact hslot
  · exact h k stored hstored

theorem Sound.erase (h : s.Sound) : Sound ⟨s.slots.erase key⟩ := by
  intro k stored hstored
  simp only [Std.ExtTreeMap.getElem?_erase] at hstored
  split at hstored
  · contradiction
  · exact h k stored hstored

theorem Sound.settle (h : s.Sound) : (s.settle now key).Sound := by
  unfold Store.settle
  split
  · exact h
  · exact h.erase

theorem getElem?_purge (s : Store) (now : Uptime) (key : String) :
    (s.purge now).2.slots[key]? = s.slots[key]?.filter (·.isLive now) := by
  unfold purge
  rw [Std.ExtTreeMap.getElem?_filter']

theorem Sound.purge (h : s.Sound) : (s.purge now).2.Sound := by
  intro k stored hstored
  rw [getElem?_purge, Option.filter_eq_some_iff] at hstored
  exact h k stored hstored.1

/-- A purge answers the number of slots that have expired. -/
theorem purge_fst (s : Store) (now : Uptime) :
    (s.purge now).1 = s.slots.toList.countP (·.2.isOver now) := by
  have hall := List.length_eq_countP_add_countP (fun entry => entry.2.isOver now)
    (l := s.slots.toList)
  have hkept : (s.slots.filter fun _ slot => slot.isLive now).size =
      s.slots.toList.countP fun entry => ¬entry.2.isOver now := by
    rw [← Std.ExtTreeMap.length_toList, Std.ExtTreeMap.toList_filter, List.countP_eq_length_filter]
    simp [Slot.isOver_eq]
  rw [Std.ExtTreeMap.length_toList] at hall
  unfold purge
  dsimp only
  rw [hkept]
  omega

end Store

/-! ## Calls answered alike -/

theorem Plain.entry_put (p : Plain) (key k : String) (slot : Slot) :
    (p.put key slot).entry k =
      if key = k then (some slot).filter (·.isLive p.now) else p.entry k := by
  unfold put
  rw [Slot.isOver_eq]
  by_cases h : k = key
  · subst h
    simp only [if_true, Option.filter_some]
    cases slot.isLive p.now <;> rfl
  · simp only [if_neg h, if_neg (Ne.symm h)]

/-- A store and a plain map are of one time, and a reader of either sees the same. -/
structure Timed.Matches (t : Timed) (p : Plain) : Prop where
  now_eq : p.now = t.now
  sound : t.store.Sound
  live?_eq (key : String) : t.store.live? t.now key = p.entry key

/-- A sweep purges or does nothing. -/
theorem Timed.keepUp_eq (t : Timed) (u : Upkeep) :
    t.keepUp u = t ∨ t.keepUp u = { t with store := (t.store.purge t.now).2 } := by
  cases u with
  | purge => exact .inr rfl
  | beginSweep interval =>
    unfold keepUp Sweep.begin
    dsimp only
    split
    · exact .inr rfl
    · exact .inl rfl
  | sweep s before =>
    unfold keepUp Sweep.pass
    dsimp only
    split
    · exact .inr rfl
    · exact .inl rfl

namespace Timed.Matches

variable {t : Timed} {p : Plain}

theorem empty (now : Uptime) : Matches ⟨now, .empty⟩ (.empty now) where
  now_eq := rfl
  sound := Store.sound_empty
  live?_eq _ := Store.live?_empty

theorem settle (h : t.Matches p) (key : String) :
    Matches { t with store := t.store.settle t.now key } p where
  now_eq := h.now_eq
  sound := h.sound.settle
  live?_eq k := (Store.live?_settle t.store (Nat.le_refl t.now)).trans (h.live?_eq k)

theorem insert (h : t.Matches p) (key : String) {slot : Slot} (hslot : slot.Sound) :
    Matches { t with store := ⟨t.store.slots.insert key slot⟩ } (p.put key slot) where
  now_eq := h.now_eq
  sound := h.sound.insert hslot
  live?_eq k := by
    rw [Store.live?_insert, Plain.entry_put, h.now_eq, h.live?_eq]

theorem erase (h : t.Matches p) (key : String) :
    Matches { t with store := ⟨t.store.slots.erase key⟩ } (p.erase key) where
  now_eq := h.now_eq
  sound := h.sound.erase
  live?_eq k := by
    rw [Store.live?_erase, h.live?_eq]
    simp only [Plain.erase, eq_comm]

theorem increment (h : t.Matches p) (key : String) (ttl : Option Span) :
    p.call (.increment key ttl) =
      (.count (Store.counted t.now ttl (t.store.live? t.now key)).value,
        p.put key (Store.counted t.now ttl (t.store.live? t.now key))) := by
  cases hlive : t.store.live? t.now key with
  | none =>
    have hentry : p.entry key = none := by rw [← h.live?_eq, hlive]
    simp only [Plain.call, hentry, Store.counted_none, Store.freshSlot, h.now_eq]
  | some slot =>
    have hentry : p.entry key = some slot := by rw [← h.live?_eq, hlive]
    simp only [Plain.call, hentry, Store.counted_some ttl (h.sound.live? slot hlive).pos]

/-- The time left is exact, since every deadline is within the range of spans. -/
theorem remaining (h : t.Matches p) (key : String) :
    ((t.store.live? t.now key).bind (·.remaining t.now)).map Span.nanos =
      (p.entry key).bind fun slot => slot.deadline.map (· - p.now) := by
  rw [← h.live?_eq, h.now_eq]
  cases hlive : t.store.live? t.now key with
  | none => rfl
  | some slot =>
    cases hdeadline : slot.deadline with
    | none => simp [Slot.remaining, hdeadline]
    | some deadline =>
      have hlimit := (h.sound.live? slot hlive).lt_limit deadline hdeadline
      have hrange : deadline - t.now < Span.limit :=
        Nat.lt_of_le_of_lt (Nat.sub_le deadline t.now) (Nat.lt_trans hlimit (by decide))
      simp [Slot.remaining, hdeadline, Span.nanos_ofNanos hrange]

theorem call (h : t.Matches p) (c : Call) :
    (t.call c).1 = (p.call c).1 ∧ (t.call c).2.Matches (p.call c).2 := by
  cases c with
  | increment key ttl =>
    rw [h.increment]
    exact ⟨rfl, h.insert key (Store.sound_counted ttl h.sound.live?)⟩
  | get key => exact ⟨congrArg (Reply.value ∘ Option.map Slot.value) (h.live?_eq key), h.settle key⟩
  | setFlag key ttl =>
    have hcall : p.call (.setFlag key ttl) =
        (.done, p.put key (Store.freshSlot t.now (some ttl))) := by
      simp only [Plain.call, h.now_eq]
      rfl
    rw [hcall]
    exact ⟨rfl, h.insert key (Store.sound_freshSlot (some ttl))⟩
  | contains key =>
    exact ⟨congrArg (Reply.present ∘ Option.isSome) (h.live?_eq key), h.settle key⟩
  | remaining key => exact ⟨congrArg Reply.left (h.remaining key), h.settle key⟩
  | delete key => exact ⟨congrArg (Reply.present ∘ Option.isSome) (h.live?_eq key), h.erase key⟩

theorem advance (h : t.Matches p) (d : Span) :
    Matches { t with now := t.now + d.nanos } (p.advance d) where
  now_eq := congrArg (· + d.nanos) h.now_eq
  sound := h.sound
  live?_eq key := by
    have hle : t.now ≤ t.now + d.nanos := Nat.le_add_right t.now d.nanos
    have hnow : (p.advance d).entry key =
        (t.store.live? t.now key).filter (·.isLive (t.now + d.nanos)) := by
      simp [Plain.advance, Slot.isOver_eq, h.live?_eq, h.now_eq]
    rw [hnow]
    exact (Slot.filter_isLive hle _).symm

theorem step (h : t.Matches p) (e : Step) :
    (t.step e).1 = (p.step e).1 ∧ (t.step e).2.Matches (p.step e).2 := by
  cases e with
  | call c =>
    obtain ⟨hreply, hmatches⟩ := h.call c
    exact ⟨congrArg ([·]) hreply, hmatches⟩
  | advance d => exact ⟨rfl, h.advance d⟩

theorem purge (h : t.Matches p) :
    Matches { t with store := (t.store.purge t.now).2 } p where
  now_eq := h.now_eq
  sound := h.sound.purge
  live?_eq k := (Store.live?_purge t.store (Nat.le_refl t.now)).trans (h.live?_eq k)

theorem keepUp (h : t.Matches p) (u : Upkeep) : (t.keepUp u).Matches p := by
  rcases t.keepUp_eq u with hsame | hpurged
  · rw [hsame]
    exact h
  · rw [hpurged]
    exact h.purge

theorem run (h : t.Matches p) (steps : List (Step ⊕ Upkeep)) :
    (t.run steps).1 = p.replies (steps.filterMap Sum.getLeft?) ∧ (t.run steps).2.store.Sound := by
  induction steps generalizing t p with
  | nil => exact ⟨rfl, h.sound⟩
  | cons e rest ih =>
    cases e with
    | inl e =>
      obtain ⟨hreplies, hmatches⟩ := h.step e
      obtain ⟨hrest, hsound⟩ := ih hmatches
      refine ⟨?_, hsound⟩
      simp only [Timed.run, List.filterMap_cons, Sum.getLeft?_inl, Plain.replies, hreplies, hrest]
    | inr u =>
      simp only [Timed.run, List.filterMap_cons, Sum.getLeft?_inr]
      exact ih (h.keepUp u)

end Timed.Matches

/-- Expiry and upkeep are not seen: a store that was empty at first replies to every run of calls as
a plain map does that knows of no upkeep; all that it stores has been counted or set; and a purge
removes the slots whose deadline has come, no others, and answers their number. -/
theorem replies_like_plain (now : Uptime) (steps : List (Step ⊕ Upkeep)) :
    let ended := ((Timed.mk now .empty).run steps).2
    ((Timed.mk now .empty).run steps).1 =
        (Plain.empty now).replies (steps.filterMap Sum.getLeft?) ∧
      (∀ (key : String) (slot : Slot), ended.store.slots[key]? = some slot → 1 ≤ slot.value) ∧
      (∀ key : String, (ended.store.purge ended.now).2.slots[key]? =
        ended.store.slots[key]?.filter (!·.isOver ended.now)) ∧
      (ended.store.purge ended.now).1 = ended.store.slots.toList.countP (·.2.isOver ended.now) := by
  intro ended
  obtain ⟨hreplies, hsound⟩ := (Timed.Matches.empty now).run steps
  refine ⟨hreplies, fun key slot hslot => (hsound key slot hslot).pos, fun key => ?_,
    ended.store.purge_fst ended.now⟩
  simp only [Store.getElem?_purge, Slot.isOver_eq, Bool.not_not]

end Gatehouse.Counter
