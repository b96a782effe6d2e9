import Gatehouse.Proofs.Guard.Extension

/-! How long to wait for the end of a block. The seconds that a blocked origin is told are exact:
with a second less the block is still there, and after that many it is over, unless another failure
of the origin has put a new block in its place. A block without a time left never ends by itself. -/
namespace Gatehouse

theorem Span.secondsUp_le_iff (d : Span) (n : Nat) :
    d.secondsUp ≤ n ↔ d.nanos ≤ n * nanosPerSecond := by
  unfold secondsUp seconds subsecond nanosPerSecond
  split <;> omega

theorem Span.lt_secondsUp_iff (d : Span) (n : Nat) :
    n < d.secondsUp ↔ n * nanosPerSecond < d.nanos := by
  rw [← Nat.not_le, secondsUp_le_iff, Nat.not_le]

namespace Guard

open Counter (Timed)
open Counter.Action

variable {c : Config} {origin : String} {t : Timed}

/-- What the guard says of an origin's block. -/
def blockSeen (c : Config) (t : Timed) (origin : String) : Except Error OriginBlock :=
  ((originBlock c origin).run (.sound t.now) t.store).1

theorem blockSeen_eq (hc : c.enabled = true) :
    blockSeen c t origin = .ok (blockOf t.now t.store origin) := by
  rw [blockSeen, run_originBlock, if_pos hc]

/-- Whether a call can begin a block of an origin or lift it. -/
def touchesBlock (origin : String) : Act → Bool
  | .recordFailure _ o | .recordOriginFailure o | .unblockOrigin o => o = origin
  | _ => false

theorem Machine.Follows.related_after {σ α : Type} {m : Machine σ α}
    {about : Event → Reply → Option α} {related : Timed → σ → Prop}
    (h : m.Follows c about related) {s : σ} (hts : related t s) (events : List Event) :
    related (Guard.after c t events) (m.after t.now s events) := by
  induction events generalizing t s with
  | nil => exact hts
  | cons e rest ih =>
    have hrest := ih (h t s e hts).2
    rw [now_step] at hrest
    exact hrest

namespace Blocking

variable {b : Blocking} {now : Uptime}

theorem block_step {e : Event} (he : ∀ a, e = .act a → touchesBlock origin a = false) :
    ((machine c origin).step now b e).2.block = b.block := by
  apply Machine.minding_step (P := fun next : Blocking => next.block = b.block) rfl
  intro a ha horigin
  have hcalm := he a ha
  cases a with
  | recordFailure | recordOriginFailure | unblockOrigin =>
    exact absurd (Option.some.inj (of_decide_eq_true horigin)) (of_decide_eq_false hcalm)
  | _ => rfl

/-- Where no call touches the block, it stays as it is along a whole run. -/
theorem block_after {events : List Event}
    (hcalm : ∀ a, .act a ∈ events → touchesBlock origin a = false) :
    ((machine c origin).after now b events).block = b.block := by
  apply Machine.after_of_step (P := fun next : Blocking => next.block = b.block) _ (Nat.le_refl now)
    rfl
  intro now next e he _ hnext
  rw [block_step, hnext]
  rintro a rfl
  exact hcalm a he

theorem Tracks.blocked_blockOf (h : Tracks c origin t b) :
    (blockOf t.now t.store origin).blocked = b.isBlocked t.now := by
  rw [← h.isBlocked_eq, blockOf]
  cases t.store.live? t.now (Counter.Key.originBlock origin).text <;> rfl

/-- An origin that is seen as blocked has a block whose end is ahead, and the time left is the time
to that end. -/
theorem Tracks.exists_block (h : Tracks c origin t b)
    (hblocked : (blockOf t.now t.store origin).blocked = true) :
    ∃ ending, b.block = some ending ∧ ending.isAhead t.now = true ∧
      (blockOf t.now t.store origin).remaining.map Span.nanos = ending.map (· - t.now) := by
  have hanswer := h.answer_eq
  rw [hblocked, answer] at hanswer
  split at hanswer
  · cases hanswer
  · rename_i ending hblock
    split at hanswer
    · rename_i hahead
      injection hanswer with _ hleft
      exact ⟨ending, hblock, hahead, hleft⟩
    · cases hanswer

theorem Tracks.seen_after (hc : c.enabled = true) (h : Tracks c origin t b) {ending : Ending}
    (hblock : b.block = some ending) {events : List Event}
    (hcalm : ∀ a, .act a ∈ events → touchesBlock origin a = false) :
    ∃ next, blockSeen c (after c t events) origin = .ok next ∧
      next.blocked = ending.isAhead (after c t events).now := by
  have hafter := (follows hc).related_after h events
  refine ⟨_, blockSeen_eq hc, ?_⟩
  rw [hafter.blocked_blockOf, isBlocked, block_after hcalm, hblock]
  rfl

end Blocking

/-- Any state of the guard is given by a run over an empty store. If an origin is blocked there and
a time is left, it is told to wait for at least one second; and as long as nothing begins a block of
the origin anew or lifts it, the origin is blocked up to a second before the end of that wait, and
no longer once the wait is over. If no time is told, the origin stays blocked. -/
theorem retryAfter_exact (c : Config) (hc : c.enabled = true) (origin : String) (start : Uptime)
    (events : List Event) :
    let t := after c ⟨start, .empty⟩ events
    ∃ block, blockSeen c t origin = .ok block ∧ (block.blocked = true →
      (∀ left, block.remaining = some left → ∃ s, block.retryAfter = some s ∧ 1 ≤ s) ∧
      ∀ later : List Event, (∀ a, .act a ∈ later → touchesBlock origin a = false) →
        let u := after c t later
        ∃ next, blockSeen c u origin = .ok next ∧
          match block.retryAfter with
          | some s =>
            (u.now ≤ t.now + (s - 1) * nanosPerSecond → next.blocked = true) ∧
              (t.now + s * nanosPerSecond ≤ u.now → next.blocked = false)
          | none => next.blocked = true) := by
  intro t
  refine ⟨blockOf t.now t.store origin, blockSeen_eq hc, fun hblocked => ?_⟩
  have htracks : Blocking.Tracks c origin t _ :=
    (Blocking.Tracks.follows hc).related_after (Blocking.tracks_start start) events
  obtain ⟨ending, hblock, hahead, hleft⟩ := htracks.exists_block hblocked
  cases hremaining : (blockOf t.now t.store origin).remaining with
  | none =>
    rw [hremaining] at hleft
    obtain rfl : ending = none := by cases ending <;> trivial
    simp only [OriginBlock.retryAfter, hremaining, Option.map_none]
    exact ⟨fun left h => absurd h (by simp), fun later hcalm => htracks.seen_after hc hblock hcalm⟩
  | some left =>
    rw [hremaining] at hleft
    obtain ⟨instant, rfl, hnanos⟩ := Option.map_eq_some_iff.mp hleft.symm
    have hnow : t.now < instant := of_decide_eq_true hahead
    have hleft : 0 < left.nanos := hnanos ▸ Nat.sub_pos_of_lt hnow
    obtain rfl : t.now + left.nanos = instant := by
      rw [← hnanos]
      exact Nat.add_sub_cancel' (Nat.le_of_lt hnow)
    -- The wait is the least number of seconds that covers the time left, which is not nothing.
    have hpos : 0 < left.secondsUp := (left.lt_secondsUp_iff 0).mpr (by rwa [Nat.zero_mul])
    have hless := (left.lt_secondsUp_iff (left.secondsUp - 1)).mp (Nat.sub_one_lt_of_lt hpos)
    have hcovers := (left.secondsUp_le_iff left.secondsUp).mp (Nat.le_refl _)
    simp only [OriginBlock.retryAfter, hremaining, Option.map_some, Option.some.injEq]
    refine ⟨fun _ _ => ⟨left.secondsUp, rfl, hpos⟩, fun later hcalm => ?_⟩
    obtain ⟨next, hseen, hnext⟩ := htracks.seen_after hc hblock hcalm
    refine ⟨next, hseen, fun hsoon => ?_, fun hlate => ?_⟩
    · rw [hnext]
      exact decide_eq_true (Nat.lt_of_le_of_lt hsoon (Nat.add_lt_add_left hless t.now))
    · rw [hnext]
      exact decide_eq_false (Nat.not_lt.mpr
        (Nat.le_trans (Nat.add_le_add_left hcovers t.now) hlate))

/-- A block of 1.5 seconds is told as two: it is still there after one second and not after two,
and neither a success nor failures of others change that. -/
theorem retryAfter_here :
    let c := Config.default.withOriginLimits 1 (.ofSeconds 60) (.ofNanos 1500000000)
    let t := after c ⟨0, .empty⟩ [.act (.recordFailure "alice" "here")]
    let later : List Event := [.act (.clearOnSuccess "alice" "here"),
      .act (.recordFailure "alice" "there"), .purge, .advance (.ofSeconds 1)]
    let latest : List Event := later ++ [.advance (.ofSeconds 1)]
    c.enabled = true ∧
      blockSeen c t "here" = .ok ⟨true, some (.ofNanos 1500000000)⟩ ∧
      (∀ a, .act a ∈ latest → touchesBlock "here" a = false) ∧
      (∃ next, blockSeen c (after c t later) "here" = .ok next ∧ next.blocked = true) ∧
      ∃ next, blockSeen c (after c t latest) "here" = .ok next ∧ next.blocked = false := by
  intro c t later latest
  obtain ⟨block, hseen, hexact⟩ :=
    retryAfter_exact c rfl "here" 0 [.act (.recordFailure "alice" "here")]
  have hblock : blockSeen c t "here" = .ok ⟨true, some (.ofNanos 1500000000)⟩ :=
    (blockSeen_eq rfl).trans (congrArg Except.ok (by decide +kernel))
  obtain rfl : ⟨true, some (.ofNanos 1500000000)⟩ = block :=
    Except.ok.inj (hblock.symm.trans hseen)
  have hcalm : ∀ a, .act a ∈ latest → touchesBlock "here" a = false := by
    simp [latest, later, touchesBlock]
  obtain ⟨-, hlater⟩ := hexact rfl
  obtain ⟨next, hnext, hsoon, -⟩ := hlater later fun a ha => hcalm a (by simp [latest, ha])
  obtain ⟨last, hlast, -, hlate⟩ := hlater latest hcalm
  exact ⟨rfl, hblock, hcalm, ⟨next, hnext, hsoon (by decide)⟩, last, hlast, hlate (by decide)⟩

end Guard

end Gatehouse
