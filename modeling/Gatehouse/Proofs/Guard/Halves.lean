import Gatehouse.Proofs.Counter.Script
import Gatehouse.Proofs.Guard.Limit

/-! The two halves of a failed attempt. The record of a failure on one side is a script on keys that
no other side has, so the halves do not notice each other: not in which order they come, and not
which calls of the other half fail. -/
namespace Gatehouse.Guard

open Counter (Action Agree Context Key Script Store Write)
open Counter.Action

namespace Side

/-- The key that shows a side's sanction. -/
def flag : Side → Key
  | user name => .userLock name
  | origin name => .originBlock name

def owns : Side → Key → Bool
  | user name, .userAttempts other | user name, .userLock other => other = name
  | origin name, .originAttempts other | origin name, .originBlock other
  | origin name, .originBlockLevel other => other = name
  | _, _ => false

/-- The threshold as it is set. -/
def limit (c : Config) : Side → Nat
  | user _ => c.userThreshold.toNat
  | origin _ => c.originThreshold.toNat

/-- The half of the record of a failure, answered by the length of the sanction that it brings. -/
def half (c : Config) : Side → Action (Option Span)
  | user name => do return if ← recordUserFailure c name then some c.lockout else none
  | origin name => recordOriginFailure c name

/-! ## Halves as scripts -/

def counting (c : Config) (side : Side) : Write := .increment side.key (some (side.window c))

/-- A sanction of a length, after which failures are counted anew. -/
def sentence (side : Side) (length : Span) : Script (Option Span) :=
  .write (.setFlag side.flag length) fun _ => .write (.delete side.key) fun _ => .done (some length)

def punishment (c : Config) : Side → Script (Option Span)
  | user name => sentence (user name) c.lockout
  | origin name =>
    .write (.increment (.originBlockLevel name) none) fun (level : Nat) =>
      sentence (origin name) (c.blockDuration level)

def verdict (c : Config) (side : Side) (count : Nat) : Script (Option Span) :=
  if side.limit c ≤ count then side.punishment c else .done none

def script (c : Config) (side : Side) : Script (Option Span) :=
  if c.enabled then .write (side.counting c) (side.verdict c) else .done none

theorem action_script (c : Config) (side : Side) : (side.script c).action = side.half c := by
  cases side with
  | user name =>
    unfold script half recordUserFailure
    split
    · simp only [bind_assoc]
      refine bind_congr fun (count : Nat) => ?_
      unfold verdict limit
      by_cases hreached : c.userThreshold.toNat ≤ count
      · rw [if_pos hreached, if_pos hreached]
        simp only [bind_assoc]
        rfl
      · rw [if_neg hreached, if_neg hreached]
        rfl
    · rfl
  | origin name =>
    unfold script half recordOriginFailure
    split
    · refine bind_congr fun (count : Nat) => ?_
      unfold verdict limit
      by_cases hreached : c.originThreshold.toNat ≤ count
      · rw [if_pos hreached, if_pos hreached]
        rfl
      · rw [if_neg hreached, if_neg hreached]
        rfl
    · rfl

variable {c : Config} {side : Side} {context : Context} {store : Store}

theorem run_script : (side.script c).run context store = (side.half c).run context store := by
  unfold Script.run
  rw [action_script]

theorem within_sentence (length : Span) : (side.sentence length).Within side.owns := by
  cases side <;> simp [sentence, Script.Within, Write.key, flag, key, owns]

theorem owns_key (side : Side) : side.owns side.key = true := by
  cases side <;> simp [key, owns]

theorem within_script (c : Config) (side : Side) : (side.script c).Within side.owns := by
  unfold script
  split
  · refine ⟨side.owns_key, fun (count : Nat) => ?_⟩
    unfold verdict
    split
    · cases side with
      | user name => exact within_sentence _
      | origin name => exact ⟨decide_eq_true rfl, fun (level : Nat) => within_sentence _⟩
    · trivial
  · trivial

theorem owns_disjoint {a b : Side} (h : a ≠ b) (key : Key) (ha : a.owns key = true) :
    b.owns key = false := by
  cases a <;> cases b <;> cases key <;> simp_all [owns]

theorem run_half_congr {other : Context} {t : Store} (hcontext : context.AgreesOn side.owns other)
    (hst : Agree side.owns context.now store t) :
    ((side.half c).run context store).1 = ((side.half c).run other t).1 ∧
      Agree side.owns context.now ((side.half c).run context store).2
        ((side.half c).run other t).2 := by
  rw [← run_script, ← run_script]
  exact (within_script c side).run_congr hcontext hst

/-- A half leaves the keys of another side alone. -/
theorem agree_half {other : Side} (h : side ≠ other) (context : Context) (store : Store) :
    Agree other.owns context.now ((side.half c).run context store).2 store := by
  rw [← run_script]
  exact fun key hkey later hlater =>
    (within_script c side).live?_of_not_mem (owns_disjoint h.symm key hkey) hlater

theorem live?_half_of_not_owned {key : Key} (hkey : side.owns key = false) {later : Uptime}
    (hlater : context.now ≤ later) :
    ((side.half c).run context store).2.live? later key.text = store.live? later key.text := by
  rw [← run_script]
  exact (within_script c side).live?_of_not_mem hkey hlater

theorem swap_halves {a b : Side} (h : a ≠ b) (context : Context) (store : Store) :
    ((b.half c).run context ((a.half c).run context store).2).1 = ((b.half c).run context store).1 ∧
      ((a.half c).run context ((b.half c).run context store).2).1 =
        ((a.half c).run context store).1 ∧
      ((b.half c).run context ((a.half c).run context store).2).2.SeenAs context.now
        ((a.half c).run context ((b.half c).run context store).2).2 := by
  simp only [← run_script]
  exact (within_script c a).swap (within_script c b) (owns_disjoint h) context store

theorem run_recordUserFailure_eq (name : String) :
    (recordUserFailure c name).run context store =
      ((((user name).half c).run context store).1.map Option.isSome,
        (((user name).half c).run context store).2) := by
  have hhalf : ((user name).half c).run context store = _ :=
    run_bind_pure (recordUserFailure c name) fun locked => if locked then some c.lockout else none
  rw [hhalf]
  rcases (recordUserFailure c name).run context store with ⟨_ | locked, after⟩
  · rfl
  · cases locked <;> rfl

end Side

/-! ## Both halves of an attempt -/

variable {c : Config} {username origin : String} {context other : Context} {store : Store}

/-- Each half answers a failed attempt as it does alone. -/
theorem answer_recordFailure :
    ((recordFailure c username origin).run context store).1 =
      .ok ⟨((recordUserFailure c username).run context store).1.toOption.getD false,
        ((recordOriginFailure c origin).run context store).1.toOption.getD none⟩ := by
  have hanswer : ((recordOriginFailure c origin).run context
      (((Side.user username).half c).run context store).2).1 =
        ((recordOriginFailure c origin).run context store).1 :=
    (Side.swap_halves (a := .user username) (b := .origin origin) (by simp) context store).1
  rw [run_recordFailure, Side.run_recordUserFailure_eq]
  dsimp only
  rw [hanswer]

theorem store_recordFailure :
    ((recordFailure c username origin).run context store).2 =
      (((Side.origin origin).half c).run context
        (((Side.user username).half c).run context store).2).2 := by
  rw [run_recordFailure, Side.run_recordUserFailure_eq]
  rfl

/-- On the keys of either side an attempt does what the half of that side does alone. -/
theorem agree_recordFailure {side : Side} (h : side = .user username ∨ side = .origin origin) :
    Agree side.owns context.now ((recordFailure c username origin).run context store).2
      ((side.half c).run context store).2 := by
  rw [store_recordFailure]
  rcases h with rfl | rfl
  · exact Side.agree_half (by simp) context _
  · exact (Side.run_half_congr (.refl context) (Side.agree_half (by simp) context store)).2

theorem live?_recordFailure {key : Key} (huser : (Side.user username).owns key = false)
    (horigin : (Side.origin origin).owns key = false) {later : Uptime}
    (hlater : context.now ≤ later) :
    ((recordFailure c username origin).run context store).2.live? later key.text =
      store.live? later key.text := by
  rw [store_recordFailure, Side.live?_half_of_not_owned horigin hlater,
    Side.live?_half_of_not_owned huser hlater]

/-- Where the same calls of one side fail, the keys that the other side does not have end alike. -/
theorem agree_recordFailure_of_agreesOn {side rest : Side}
    (hsides : side = .user username ∧ rest = .origin origin ∨
      side = .origin origin ∧ rest = .user username)
    (hcontext : context.AgreesOn side.owns other) :
    Agree (fun key => !rest.owns key) context.now
      ((recordFailure c username origin).run other store).2
      ((recordFailure c username origin).run context store).2 := by
  intro key hrest later hlater
  rw [Bool.not_eq_true'] at hrest
  have hside : side = .user username ∨ side = .origin origin := hsides.imp And.left And.left
  have hlater' : other.now ≤ later := hcontext.now_eq ▸ hlater
  cases hkey : side.owns key with
  | true =>
    have hhalves := (Side.run_half_congr (c := c) hcontext (.refl store)).2
    rw [agree_recordFailure hside key hkey later hlater, hhalves key hkey later hlater]
    exact agree_recordFailure hside key hkey later hlater'
  | false =>
    -- A key of neither side is left alone in both contexts.
    obtain ⟨huser, horigin⟩ : (Side.user username).owns key = false ∧
        (Side.origin origin).owns key = false := by
      rcases hsides with ⟨rfl, rfl⟩ | ⟨rfl, rfl⟩
      · exact ⟨hkey, hrest⟩
      · exact ⟨hrest, hkey⟩
    rw [live?_recordFailure huser horigin hlater', live?_recordFailure huser horigin hlater]

/-- The record of a failed attempt always comes to an answer, which tells what each half answers
alone, and it leaves what the halves leave one after the other, in either order. What becomes of one
half does not depend on which calls of the other half fail. -/
theorem halves_independent (c : Config) (username origin : String) (context : Context)
    (store : Store) :
    let user := (recordUserFailure c username).run context store
    let rest := (recordOriginFailure c origin).run context store
    let both := (recordFailure c username origin).run context store
    both.1 = .ok ⟨user.1.toOption.getD false, rest.1.toOption.getD none⟩ ∧
      both.2.SeenAs context.now ((recordOriginFailure c origin).run context user.2).2 ∧
      both.2.SeenAs context.now ((recordUserFailure c username).run context rest.2).2 ∧
      ∀ other : Context,
        let changed := (recordFailure c username origin).run other store
        (context.AgreesOn (Side.origin origin).owns other →
          changed.1.map Sanction.originBlockedFor = both.1.map Sanction.originBlockedFor ∧
            Agree (fun key => !(Side.user username).owns key) context.now changed.2 both.2) ∧
        (context.AgreesOn (Side.user username).owns other →
          changed.1.map Sanction.userLocked = both.1.map Sanction.userLocked ∧
            Agree (fun key => !(Side.origin origin).owns key) context.now changed.2 both.2) := by
  intro user rest both
  have hswap := (Side.swap_halves (c := c) (a := .user username) (b := .origin origin)
    (by simp) context store).2.2
  refine ⟨answer_recordFailure, .refl _, ?_, fun other => ?_⟩
  · simp only [both, rest, store_recordFailure, Side.run_recordUserFailure_eq]
    exact hswap
  intro changed
  refine ⟨fun hcontext => ?_, fun hcontext => ?_⟩
  · have hhalf := Side.run_half_congr (c := c) hcontext (.refl store)
    have hanswer : rest.1 = ((recordOriginFailure c origin).run other store).1 := hhalf.1
    refine ⟨?_, agree_recordFailure_of_agreesOn (.inr ⟨rfl, rfl⟩) hcontext⟩
    simp only [changed, both, answer_recordFailure, ← hanswer, rest]
    rfl
  · have hanswer := (Side.run_half_congr (c := c) hcontext (.refl store)).1
    refine ⟨?_, agree_recordFailure_of_agreesOn (.inl ⟨rfl, rfl⟩) hcontext⟩
    simp only [changed, both, answer_recordFailure, Side.run_recordUserFailure_eq, hanswer]
    rfl

namespace Sample

/-- One failure is enough for a lock, and for a block of half a minute. -/
def strict : Config :=
  (Config.default.withUserLimits 1 (.ofSeconds 60) (.ofSeconds 60)).withOriginLimits 1
    (.ofSeconds 60) (.ofSeconds 30)

/-- No call on the failures of a username works. -/
def broken : Context := ⟨0, fun _ key => key = (Key.userAttempts "ivan").text⟩

theorem agreesOn_origin : broken.AgreesOn (Side.origin "here").owns (.sound 0) := by
  refine ⟨rfl, fun operation key hkey => decide_eq_false fun htext => ?_⟩
  rw [Key.text_injective htext] at hkey
  contradiction

/-- The origin is blocked all the same, for as long as if all calls worked. -/
theorem blocked_without_user :
    let both := (recordFailure strict "ivan" "here").run broken .empty
    let working := (recordFailure strict "ivan" "here").run (.sound 0) .empty
    broken.AgreesOn (Side.origin "here").owns (.sound 0) ∧
      both.1.toOption = some ⟨false, some (.ofSeconds 30)⟩ ∧
      working.1.toOption = some ⟨true, some (.ofSeconds 30)⟩ ∧
      working.1.map Sanction.originBlockedFor = both.1.map Sanction.originBlockedFor ∧
      Agree (fun key => !(Side.user "ivan").owns key) 0 working.2 both.2 := by
  intro both working
  obtain ⟨-, -, -, hother⟩ := halves_independent strict "ivan" "here" broken .empty
  obtain ⟨hanswer, hagree⟩ := (hother (.sound 0)).1 agreesOn_origin
  have hbroken : both.1.toOption = some ⟨false, some (.ofSeconds 30)⟩ := by decide +kernel
  have hworking : working.1.toOption = some ⟨true, some (.ofSeconds 30)⟩ := by decide +kernel
  exact ⟨agreesOn_origin, hbroken, hworking, hanswer, hagree⟩

end Sample

end Gatehouse.Guard
