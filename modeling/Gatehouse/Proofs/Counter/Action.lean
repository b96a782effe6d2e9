import Gatehouse.Counter.Action
import Gatehouse.Proofs.Counter.Store

/-! Running programs that use the counter store. A program spares a key if no reader of that key can
tell, from then on, whether the program ran; sparing is kept by every way to put programs together.
-/
namespace Gatehouse.Counter.Action

variable {α β : Type} {context : Context} {store : Store}

@[simp] theorem run_pure (value : α) :
    (pure value : Action α).run context store = (.ok value, store) := rfl

@[simp] theorem run_throw (e : Error) :
    (throw e : Action α).run context store = (.error e, store) := rfl

theorem run_bind (a : Action α) (f : α → Action β) :
    (a >>= f).run context store =
      match a.run context store with
      | (.ok value, store) => (f value).run context store
      | (.error e, store) => (.error e, store) := by
  change ExceptT.bindCont (fun value => f value context) (a.run context store).1
    (a.run context store).2 = _
  rcases a.run context store with ⟨_ | _, _⟩ <;> rfl

theorem run_bind_of_ok {a : Action α} {value : α} (h : (a.run context store).1 = .ok value)
    (f : α → Action β) :
    (a >>= f).run context store = (f value).run context (a.run context store).2 := by
  rw [run_bind]
  rcases hrun : a.run context store with ⟨answer, middle⟩
  rw [hrun] at h
  cases h
  rfl

theorem answer_bind_eq_ok_iff {a : Action α} {f : α → Action β} {result : β} :
    ((a >>= f).run context store).1 = .ok result ↔
      ∃ value, (a.run context store).1 = .ok value ∧
        ((f value).run context (a.run context store).2).1 = .ok result := by
  rw [run_bind]
  rcases a.run context store with ⟨_ | value, middle⟩
  · simp
  · simp

theorem run_bind_pure (a : Action α) (f : α → β) :
    (a >>= fun value => pure (f value)).run context store =
      ((a.run context store).1.map f, (a.run context store).2) := by
  rw [run_bind]
  rcases a.run context store with ⟨_ | _, _⟩ <;> rfl

@[simp] theorem run_attempt (a : Action α) :
    a.attempt.run context store = (.ok (a.run context store).1, (a.run context store).2) := rfl

@[simp] theorem run_lift (value : Except Error α) :
    (liftM value : Action α).run context store = (value, store) := by
  cases value <;> rfl

theorem run_call (operation : Operation) (key : String) (f : Store → Uptime → α × Store) :
    (call operation key f).run context store =
      if context.fails operation key then (.error unavailable, store)
      else (.ok (f store context.now).1, (f store context.now).2) := by
  change (call operation key f) context store = _
  unfold call
  split <;> rfl

/-! ## What a program can come to -/

def Yields (a : Action α) (value : α) : Prop :=
  ∃ (context : Context) (store : Store), (a.run context store).1 = .ok value

theorem eq_of_yields_pure {value result : α} (h : Yields (pure value) result) : value = result := by
  obtain ⟨context, store, h⟩ := h
  exact Except.ok.inj h

theorem ok_of_yields_lift {value : Except Error α} {result : α}
    (h : Yields (liftM value : Action α) result) : value = .ok result := by
  obtain ⟨context, store, h⟩ := h
  rwa [run_lift] at h

theorem not_yields_throw_bind (e : Error) (f : α → Action β) (result : β) :
    ¬Yields (throw e >>= f) result := by
  rintro ⟨context, store, h⟩
  exact nomatch (h : Except.error e = .ok result)

theorem exists_of_yields_bind {a : Action α} {f : α → Action β} {result : β}
    (h : Yields (a >>= f) result) : ∃ value, Yields a value ∧ Yields (f value) result := by
  obtain ⟨context, store, h⟩ := h
  rw [run_bind] at h
  rcases hrun : a.run context store with ⟨_ | value, middle⟩ <;> rw [hrun] at h
  · exact nomatch h
  · exact ⟨value, ⟨context, store, congrArg Prod.fst hrun⟩, ⟨context, middle, h⟩⟩

/-! ## Sparing a key -/

/-- The program leaves a key as it is, for every reader from then on. -/
def Spares (key : String) (a : Action α) : Prop :=
  ∀ (context : Context) (store : Store) (later : Uptime), context.now ≤ later →
    (a.run context store).2.live? later key = store.live? later key

variable {key : String}

theorem spares_pure (value : α) : Spares key (pure value : Action α) :=
  fun _ _ _ _ => rfl

theorem spares_throw (e : Error) : Spares key (throw e : Action α) :=
  fun _ _ _ _ => rfl

theorem spares_throw_bind (e : Error) (f : α → Action β) : Spares key (throw e >>= f) :=
  fun _ _ _ _ => rfl

theorem spares_lift (value : Except Error α) : Spares key (liftM value : Action α) := by
  intro context store later _
  rw [run_lift]

theorem Spares.bind_of_yields {a : Action α} {f : α → Action β} (ha : Spares key a)
    (hf : ∀ value, Yields a value → Spares key (f value)) : Spares key (a >>= f) := by
  intro context store later hlater
  have hfirst := ha context store later hlater
  rw [run_bind]
  split
  · rename_i value middle h
    rw [h] at hfirst
    have hvalue : Yields a value := ⟨context, store, by rw [h]⟩
    rw [hf value hvalue context middle later hlater, hfirst]
  · rename_i e middle h
    rw [h] at hfirst
    exact hfirst

theorem Spares.bind {a : Action α} {f : α → Action β} (ha : Spares key a)
    (hf : ∀ value, Spares key (f value)) : Spares key (a >>= f) :=
  ha.bind_of_yields fun value _ => hf value

theorem Spares.attempt {a : Action α} (ha : Spares key a) : Spares key a.attempt := by
  intro context store later hlater
  rw [run_attempt]
  exact ha context store later hlater

/-- A call spares a key if the store operation does; a failed call spares every key. -/
theorem spares_call {operation : Operation} {k : String} {f : Store → Uptime → α × Store}
    (hf : ∀ (store : Store) (now later : Uptime), now ≤ later →
      (f store now).2.live? later key = store.live? later key) :
    Spares key (call operation k f) := by
  intro context store later hlater
  rw [run_call]
  split
  · rfl
  · exact hf store context.now later hlater

theorem spares_contains (k : String) : Spares key (contains k) :=
  spares_call fun store _ _ h => Store.live?_settle store h

theorem spares_remaining (k : String) : Spares key (remaining k) :=
  spares_call fun store _ _ h => Store.live?_settle store h

theorem spares_increment {k : String} (hk : k ≠ key) (ttl : Option Span) :
    Spares key (increment k ttl) := by
  apply spares_call
  intro store now later _
  rw [Store.live?_increment, if_neg hk]

theorem spares_setFlag {k : String} (hk : k ≠ key) (ttl : Span) : Spares key (setFlag k ttl) := by
  apply spares_call
  intro store now later _
  rw [Store.live?_setFlag, if_neg hk]

theorem spares_delete {k : String} (hk : k ≠ key) : Spares key (delete k) := by
  apply spares_call
  intro store now later _
  rw [Store.live?_delete, if_neg hk]

/-- What a key shows stays what it is under a program that spares the key. -/
theorem Spares.shows {a : Action α} (ha : Spares key a) {now : Uptime} {slot : Option Slot}
    (h : store.Shows now key slot) : (a.run (.sound now) store).2.Shows now key slot :=
  h.congr fun later hlater => ha (.sound now) store later hlater

/-! ## Coming to an answer -/

/-- The program comes to an answer whenever every call of the store works. -/
def Succeeds (a : Action α) : Prop :=
  ∀ (now : Uptime) (store : Store), ∃ value, (a.run (.sound now) store).1 = .ok value

theorem succeeds_pure (value : α) : Succeeds (pure value : Action α) := fun _ _ => ⟨value, rfl⟩

theorem Succeeds.bind {a : Action α} {f : α → Action β} (ha : Succeeds a)
    (hf : ∀ value, Succeeds (f value)) : Succeeds (a >>= f) := by
  intro now store
  obtain ⟨value, hvalue⟩ := ha now store
  obtain ⟨answer, hanswer⟩ := hf value now (a.run (.sound now) store).2
  exact ⟨answer, (congrArg Prod.fst (run_bind_of_ok hvalue f)).trans hanswer⟩

theorem succeeds_attempt (a : Action α) : Succeeds a.attempt :=
  fun now store => ⟨(a.run (.sound now) store).1, rfl⟩

theorem run_call_sound (operation : Operation) (key : String) (f : Store → Uptime → α × Store)
    (now : Uptime) (store : Store) :
    (call operation key f).run (.sound now) store = (.ok (f store now).1, (f store now).2) := by
  rw [run_call]
  rfl

theorem succeeds_call (operation : Operation) (key : String) (f : Store → Uptime → α × Store) :
    Succeeds (call operation key f) :=
  fun now store => ⟨(f store now).1, by rw [run_call_sound]⟩

end Gatehouse.Counter.Action
