import Gatehouse.Proofs.Counter.Action
import Gatehouse.Proofs.Counter.Key

/-! Stores that agree on some keys, and programs that cannot tell such stores apart. Two programs
are alike if, on stores that agree, they end with the same error or with related answers and leave
stores that agree again. Every way to put programs together keeps them alike, and so does every call
of the store: on another key it does not matter, and on one of the keys both sides see the same. -/
namespace Gatehouse.Counter

/-- From now on no reader of the keys can tell two stores apart. -/
def Agree (keys : Key → Bool) (now : Uptime) (s t : Store) : Prop :=
  ∀ key, keys key = true → ∀ later, now ≤ later → s.live? later key.text = t.live? later key.text

section

variable {keys : Key → Bool} {now later : Uptime} {s t u : Store}

theorem Agree.refl (s : Store) : Agree keys now s s := fun _ _ _ _ => rfl

theorem Agree.symm (h : Agree keys now s t) : Agree keys now t s :=
  fun key hkey later hlater => (h key hkey later hlater).symm

theorem Agree.trans (h : Agree keys now s t) (h' : Agree keys now t u) : Agree keys now s u :=
  fun key hkey later hlater => (h key hkey later hlater).trans (h' key hkey later hlater)

theorem Agree.of_le (h : Agree keys now s t) (hle : now ≤ later) : Agree keys later s t :=
  fun key hkey last hlast => h key hkey last (Nat.le_trans hle hlast)

theorem agree_purge (s : Store) : Agree keys now (s.purge now).2 s :=
  fun _ _ _ hlater => Store.live?_purge s hlater

end

/-- The same error, or values that are related. -/
inductive Ends {α : Type} (R : α → α → Prop) : Except Error α → Except Error α → Prop
  | ok {x y : α} (h : R x y) : Ends R (.ok x) (.ok y)
  | error (e : Error) : Ends R (.error e) (.error e)

theorem Ends.eq {α : Type} {x y : Except Error α} (h : Ends Eq x y) : x = y := by
  cases h with
  | ok h => exact congrArg Except.ok h
  | error e => rfl

theorem Ends.map_eq {α β : Type} {f : α → β} {x y : Except Error α}
    (h : Ends (fun x y => f x = f y) x y) : x.map f = y.map f := by
  cases h with
  | ok h => exact congrArg Except.ok h
  | error e => rfl

theorem Ends.mono {α : Type} {R R' : α → α → Prop} {x y : Except Error α} (h : Ends R x y)
    (himp : ∀ x y, R x y → R' x y) : Ends R' x y := by
  cases h with
  | ok h => exact .ok (himp _ _ h)
  | error e => exact .error e

namespace Action

variable {α β : Type} {keys : Key → Bool} {R : α → α → Prop} {S : β → β → Prop}

def Alike (keys : Key → Bool) (R : α → α → Prop) (a b : Action α) : Prop :=
  ∀ (context : Context) (s t : Store), Agree keys context.now s t →
    Ends R (a.run context s).1 (b.run context t).1 ∧
      Agree keys context.now (a.run context s).2 (b.run context t).2

theorem alike_pure {x y : α} (h : R x y) : Alike keys R (pure x) (pure y) :=
  fun _ _ _ hst => ⟨.ok h, hst⟩

theorem alike_throw (e : Error) : Alike keys R (throw e) (throw e) :=
  fun _ _ _ hst => ⟨.error e, hst⟩

theorem alike_throw_bind (e : Error) (f g : α → Action β) :
    Alike keys S (throw e >>= f) (throw e >>= g) :=
  fun _ _ _ hst => ⟨.error e, hst⟩

theorem alike_lift (value : Except Error α) :
    Alike keys (fun x y => x = y ∧ value = .ok x) (liftM value : Action α) (liftM value) := by
  intro context s t hst
  rw [run_lift, run_lift]
  refine ⟨?_, hst⟩
  cases value with
  | error e => exact .error e
  | ok x => exact .ok ⟨rfl, rfl⟩

theorem Alike.mono {a b : Action α} {R' : α → α → Prop} (h : Alike keys R a b)
    (himp : ∀ x y, R x y → R' x y) : Alike keys R' a b := by
  intro context s t hst
  obtain ⟨hends, hafter⟩ := h context s t hst
  exact ⟨hends.mono himp, hafter⟩

theorem Alike.bind {a b : Action α} {f g : α → Action β} (h : Alike keys R a b)
    (hfg : ∀ x y, R x y → Alike keys S (f x) (g y)) : Alike keys S (a >>= f) (b >>= g) := by
  intro context s t hst
  obtain ⟨hends, hafter⟩ := h context s t hst
  rw [run_bind, run_bind]
  generalize a.run context s = first at hends hafter
  generalize b.run context t = second at hends hafter
  obtain ⟨answer, s'⟩ := first
  obtain ⟨answer', t'⟩ := second
  cases hends with
  | ok hxy => exact hfg _ _ hxy context s' t' hafter
  | error e => exact ⟨.error e, hafter⟩

theorem Alike.attempt {a b : Action α} (h : Alike keys R a b) :
    Alike keys (Ends R) a.attempt b.attempt := by
  intro context s t hst
  obtain ⟨hends, hafter⟩ := h context s t hst
  exact ⟨.ok hends, hafter⟩

/-- A program that spares the keys leaves a store that agrees with the one it found. -/
theorem agree_of_spares {a : Action α} (ha : ∀ key, keys key = true → Spares key.text a)
    (context : Context) (s : Store) : Agree keys context.now (a.run context s).2 s :=
  fun key hkey later hlater => ha key hkey context s later hlater

/-- Programs that spare the keys are alike once their errors are handed on as values. -/
theorem alike_attempt_of_spares {a b : Action α} (ha : ∀ key, keys key = true → Spares key.text a)
    (hb : ∀ key, keys key = true → Spares key.text b) :
    Alike keys (fun _ _ => True) a.attempt b.attempt := by
  intro context s t hst
  exact ⟨.ok trivial, (agree_of_spares ha context s).trans
    (hst.trans (agree_of_spares hb context t).symm)⟩

/-! ## Calls of the store -/

theorem live?_settle_congr {s t : Store} {now later : Uptime} {seen key : String}
    (hle : now ≤ later) (h : s.live? later key = t.live? later key) :
    (s.settle now seen).live? later key = (t.settle now seen).live? later key := by
  rw [Store.live?_settle s hle, Store.live?_settle t hle, h]

/-- Calls on one key fail alike, and have the same answer if the key is one of the given. What the
operation answers and leaves under the key must depend on what it sees under the key only. -/
theorem alike_call {operation : Operation} {key : Key} {f : Store → Uptime → α × Store}
    (hanswer : ∀ s t now, s.live? now key.text = t.live? now key.text → (f s now).1 = (f t now).1)
    (hafter : ∀ s t now later other, now ≤ later →
      (key ≠ other ∨ s.live? now key.text = t.live? now key.text) →
      s.live? later other.text = t.live? later other.text →
      (f s now).2.live? later other.text = (f t now).2.live? later other.text) :
    Alike keys (fun x y => keys key = true → x = y) (call operation key.text f)
      (call operation key.text f) := by
  intro context s t hst
  rw [run_call, run_call]
  split
  · exact ⟨.error _, hst⟩
  · have hseen (hkey : keys key = true) := hst key hkey context.now (Nat.le_refl _)
    refine ⟨.ok fun hkey => hanswer s t context.now (hseen hkey), ?_⟩
    intro other hother later hlater
    refine hafter s t context.now later other hlater ?_ (hst other hother later hlater)
    by_cases heq : key = other
    · exact .inr (hseen (heq ▸ hother))
    · exact .inl heq

theorem alike_contains (key : Key) : Alike keys (fun x y => keys key = true → x = y)
    (contains key.text) (contains key.text) := by
  refine alike_call (fun s t now h => congrArg Option.isSome h) ?_
  intro s t now later other hle _ h
  exact live?_settle_congr hle h

theorem alike_remaining (key : Key) : Alike keys (fun x y => keys key = true → x = y)
    (remaining key.text) (remaining key.text) := by
  refine alike_call (fun s t now h => congrArg (fun slot => slot.bind (·.remaining now)) h) ?_
  intro s t now later other hle _ h
  exact live?_settle_congr hle h

theorem alike_increment (key : Key) (ttl : Option Span) :
    Alike keys (fun x y => keys key = true → x = y) (increment key.text ttl)
      (increment key.text ttl) := by
  refine alike_call (fun s t now h => ?_) fun s t now later other _ hseen h => ?_
  · rw [Store.increment_fst, Store.increment_fst, h]
  · rw [Store.live?_increment, Store.live?_increment]
    rcases hseen with hne | hseen
    · simp only [Key.text_inj, if_neg hne, h]
    · rw [hseen, h]

theorem alike_setFlag (key : Key) (ttl : Span) :
    Alike keys (fun x y => keys key = true → x = y) (setFlag key.text ttl)
      (setFlag key.text ttl) := by
  refine alike_call (fun _ _ _ _ => rfl) fun s t now later other _ _ h => ?_
  rw [Store.live?_setFlag, Store.live?_setFlag, h]

theorem alike_delete (key : Key) : Alike keys (fun x y => keys key = true → x = y)
    (delete key.text) (delete key.text) := by
  refine alike_call (fun s t now h => congrArg Option.isSome h) fun s t now later other _ _ h => ?_
  rw [Store.live?_delete, Store.live?_delete, h]

end Action

end Gatehouse.Counter
