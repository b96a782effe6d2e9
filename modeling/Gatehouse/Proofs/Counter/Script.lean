import Gatehouse.Proofs.Counter.Agreement

/-! Programs that change the counter store, laid open. A script says which write comes next, given
the answers so far; the first write that fails ends it. Its journal is the list of the writes that
it came to. A script that writes some keys only does not notice what becomes of the others: so
scripts on different keys can change places. -/
namespace Gatehouse.Counter

/-- A call that changes the store. -/
inductive Write where
  | increment (key : Key) (ttl : Option Span)
  | setFlag (key : Key) (ttl : Span)
  | delete (key : Key)
deriving DecidableEq

namespace Write

def key : Write → Key
  | increment key _ => key
  | setFlag key _ => key
  | delete key => key

def operation : Write → Operation
  | increment _ _ => .increment
  | setFlag _ _ => .setFlag
  | delete _ => .delete

def Answer : Write → Type
  | increment _ _ => Nat
  | setFlag _ _ => Unit
  | delete _ => Bool

/-- The answer of a write that works, and the store that it leaves. -/
def on : (w : Write) → Store → Uptime → w.Answer × Store
  | increment key ttl, s, now => s.increment now key.text ttl
  | setFlag key ttl, s, now => ((), s.setFlag now key.text ttl)
  | delete key, s, now => s.delete now key.text

def action (w : Write) : Action w.Answer := .call w.operation w.key.text w.on

def fails (w : Write) (context : Context) : Bool := context.fails w.operation w.key.text

theorem run_action (w : Write) (context : Context) (store : Store) :
    w.action.run context store =
      if w.fails context then (.error unavailable, store)
      else (.ok (w.on store context.now).1, (w.on store context.now).2) :=
  Action.run_call w.operation w.key.text w.on

variable {w : Write} {s t : Store} {now later : Uptime}

theorem live?_on_of_ne {key : String} (h : w.key.text ≠ key) :
    (w.on s now).2.live? later key = s.live? later key := by
  cases w with
  | increment k ttl => exact (s.live?_increment ttl).trans (if_neg h)
  | setFlag k ttl => exact (s.live?_setFlag ttl).trans (if_neg h)
  | delete k => exact s.live?_delete.trans (if_neg h)

/-- What a write answers and leaves under its key is told by what it finds there. -/
theorem on_congr (h : s.live? now w.key.text = t.live? now w.key.text) :
    (w.on s now).1 = (w.on t now).1 ∧
      ∀ later, (w.on s now).2.live? later w.key.text = (w.on t now).2.live? later w.key.text := by
  cases w with
  | increment key ttl =>
    refine ⟨congrArg (fun slot => (Store.counted now ttl slot).value) h, fun later => ?_⟩
    simp only [on, Write.key, Store.live?_increment, if_true] at h ⊢
    rw [h]
  | setFlag key ttl =>
    refine ⟨rfl, fun later => ?_⟩
    simp only [on, Write.key, Store.live?_setFlag, if_true]
  | delete key =>
    refine ⟨congrArg Option.isSome h, fun later => ?_⟩
    simp only [on, Write.key, Store.live?_delete, if_true]

theorem agree_on {keys : Key → Bool} (hkey : keys w.key = true) (h : Agree keys now s t) :
    (w.on s now).1 = (w.on t now).1 ∧ Agree keys now (w.on s now).2 (w.on t now).2 := by
  obtain ⟨hanswer, hafter⟩ := on_congr (h w.key hkey now (Nat.le_refl now))
  refine ⟨hanswer, fun key hown later hlater => ?_⟩
  by_cases heq : w.key = key
  · exact heq ▸ hafter later
  · have hne : w.key.text ≠ key.text := fun htext => heq (Key.text_injective htext)
    rw [live?_on_of_ne hne, live?_on_of_ne hne, h key hown later hlater]

end Write

inductive Script (α : Type) where
  | done (value : α)
  | write (w : Write) (next : w.Answer → Script α)

/-- A write that was tried, and whether it worked. -/
structure Try where
  write : Write
  worked : Bool
deriving DecidableEq

namespace Script

variable {α β : Type}

def action : Script α → Action α
  | done value => pure value
  | write w next => w.action >>= fun answer => (next answer).action

def run (script : Script α) (context : Context) (store : Store) : Except Error α × Store :=
  script.action.run context store

def journal (context : Context) : Script α → Store → List Try
  | done _, _ => []
  | write w next, store =>
    if w.fails context then [⟨w, false⟩]
    else ⟨w, true⟩ :: (next (w.on store context.now).1).journal context (w.on store context.now).2

/-- Every write is of one of the keys. -/
def Within (keys : Key → Bool) : Script α → Prop
  | done _ => True
  | write w next => keys w.key = true ∧ ∀ answer, (next answer).Within keys

variable {context : Context} {store : Store} {keys : Key → Bool}

theorem run_write (w : Write) (next : w.Answer → Script α) :
    (write w next).run context store =
      if w.fails context then (.error unavailable, store)
      else (next (w.on store context.now).1).run context (w.on store context.now).2 := by
  unfold run
  rw [action, Action.run_bind, w.run_action]
  by_cases h : w.fails context = true
  · simp only [if_pos h]
  · simp only [if_neg h]

/-- A write that is to fail ends the script, and any other is the first of the rest. -/
theorem write_cases (w : Write) (next : w.Answer → Script α) (context : Context) (store : Store) :
    let after := w.on store context.now
    ((write w next).journal context store = [⟨w, false⟩] ∧
        (write w next).run context store = (.error unavailable, store)) ∨
      ((write w next).journal context store = ⟨w, true⟩ :: (next after.1).journal context after.2 ∧
        (write w next).run context store = (next after.1).run context after.2) := by
  rw [run_write, journal]
  by_cases h : w.fails context = true
  · rw [if_pos h, if_pos h]
    exact .inl ⟨rfl, rfl⟩
  · rw [if_neg h, if_neg h]
    exact .inr ⟨rfl, rfl⟩

/-! ## Journals -/

theorem Within.key_of_mem {script : Script α} (h : script.Within keys) {entry : Try}
    (hentry : entry ∈ script.journal context store) : keys entry.write.key = true := by
  induction script generalizing store with
  | done value => contradiction
  | write w next ih =>
    rw [journal] at hentry
    split at hentry
    · obtain rfl := List.mem_singleton.mp hentry
      exact h.1
    · rcases List.mem_cons.mp hentry with rfl | hrest
      · exact h.1
      · exact ih _ (h.2 _) hrest

/-- Only a call that was to fail is noted as one that did not work. -/
theorem fails_of_mem {script : Script α} {w : Write}
    (h : ⟨w, false⟩ ∈ script.journal context store) : w.fails context = true := by
  induction script generalizing store with
  | done value => contradiction
  | write first next ih =>
    rw [journal] at h
    split at h
    · rename_i hfails
      cases List.mem_singleton.mp h
      exact hfails
    · rcases List.mem_cons.mp h with heq | hrest
      · cases heq
      · exact ih _ hrest

/-! ## Scripts on keys of their own -/

theorem Within.spares {script : Script α} (h : script.Within keys) {key : String}
    (hkey : ∀ k, keys k = true → k.text ≠ key) : Action.Spares key script.action := by
  induction script with
  | done value => exact Action.spares_pure value
  | write w next ih =>
    refine .bind (fun context store later _ => ?_) fun answer => ih answer (h.2 answer)
    rw [w.run_action]
    split
    · rfl
    · exact Write.live?_on_of_ne (hkey w.key h.1)

theorem Within.live?_of_not_mem {script : Script α} (h : script.Within keys) {key : Key}
    (hkey : keys key = false) {later : Uptime} (hlater : context.now ≤ later) :
    (script.run context store).2.live? later key.text = store.live? later key.text := by
  refine h.spares (fun k hk htext => ?_) context store later hlater
  rw [Key.text_injective htext] at hk
  exact Bool.false_ne_true (hkey.symm.trans hk)

end Script

/-- Two contexts of one time in which the same calls on the keys fail. -/
structure Context.AgreesOn (keys : Key → Bool) (context other : Context) : Prop where
  now_eq : context.now = other.now
  fails_eq (operation : Operation) (key : Key) (h : keys key = true) :
    context.fails operation key.text = other.fails operation key.text

theorem Context.AgreesOn.refl {keys : Key → Bool} (context : Context) :
    context.AgreesOn keys context := ⟨rfl, fun _ _ _ => rfl⟩

namespace Script

variable {α β : Type} {context other : Context} {s t : Store} {keys : Key → Bool}

/-- A script on some keys answers by what those show, and by which calls on them fail. -/
theorem Within.run_congr {script : Script α} (h : script.Within keys)
    (hcontext : context.AgreesOn keys other) (hst : Agree keys context.now s t) :
    (script.run context s).1 = (script.run other t).1 ∧
      Agree keys context.now (script.run context s).2 (script.run other t).2 := by
  induction script generalizing s t with
  | done value => exact ⟨rfl, hst⟩
  | write w next ih =>
    have hfails : w.fails context = w.fails other := hcontext.fails_eq _ _ h.1
    obtain ⟨hanswer, hafter⟩ := Write.agree_on h.1 hst
    rw [run_write, run_write, ← hfails, ← hcontext.now_eq]
    split
    · exact ⟨rfl, hst⟩
    · rw [← hanswer]
      exact ih _ (h.2 _) hafter

/-- Scripts on different keys can change places: neither is answered otherwise for the other, and
no reader can tell in which order they ran. -/
theorem Within.swap {a : Script α} {b : Script β} {keysA keysB : Key → Bool} (ha : a.Within keysA)
    (hb : b.Within keysB) (hdisjoint : ∀ key, keysA key = true → keysB key = false)
    (context : Context) (store : Store) :
    (b.run context (a.run context store).2).1 = (b.run context store).1 ∧
      (a.run context (b.run context store).2).1 = (a.run context store).1 ∧
      (b.run context (a.run context store).2).2.SeenAs context.now
        (a.run context (b.run context store).2).2 := by
  have hdisjoint' (key : Key) (hkey : keysB key = true) : keysA key = false :=
    Bool.eq_false_iff.mpr fun hown => Bool.false_ne_true ((hdisjoint key hown).symm.trans hkey)
  have hsparedB : Agree keysB context.now (a.run context store).2 store :=
    fun key hkey later hlater => ha.live?_of_not_mem (hdisjoint' key hkey) hlater
  have hsparedA : Agree keysA context.now (b.run context store).2 store :=
    fun key hkey later hlater => hb.live?_of_not_mem (hdisjoint key hkey) hlater
  obtain ⟨hanswerB, hafterB⟩ := hb.run_congr (.refl context) hsparedB
  obtain ⟨hanswerA, hafterA⟩ := ha.run_congr (.refl context) hsparedA
  refine ⟨hanswerB, hanswerA, fun later hlater key => ?_⟩
  -- A key belongs to the one script, to the other, or to neither, which then spare it both.
  by_cases hkeyA : ∃ k, keysA k = true ∧ k.text = key
  · obtain ⟨k, hk, rfl⟩ := hkeyA
    rw [hafterA k hk later hlater, hb.live?_of_not_mem (hdisjoint k hk) hlater]
  · have hsparesA : Action.Spares key a.action := ha.spares fun k hk htext => hkeyA ⟨k, hk, htext⟩
    by_cases hkeyB : ∃ k, keysB k = true ∧ k.text = key
    · obtain ⟨k, hk, rfl⟩ := hkeyB
      rw [hafterB k hk later hlater, ha.live?_of_not_mem (hdisjoint' k hk) hlater]
    · have hsparesB : Action.Spares key b.action :=
        hb.spares fun k hk htext => hkeyB ⟨k, hk, htext⟩
      exact ((hsparesB context _ later hlater).trans (hsparesA context store later hlater)).trans
        ((hsparesA context _ later hlater).trans (hsparesB context store later hlater)).symm

end Script

end Gatehouse.Counter
