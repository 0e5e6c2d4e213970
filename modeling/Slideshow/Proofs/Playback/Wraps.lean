import Mathlib.Data.List.Chain
import Slideshow.Playback.Basic
import Slideshow.Proofs.Playback.LoopNumber

/-!
# Wraps of the loop

A tick reports a wrap if the folded time is earlier than it was a tick ago. Over exact numbers that
says how the time between the two ticks compares with the loops that have begun in between, and if
no two ticks are a whole loop apart it says that a loop has begun.

## Main definitions

* `Playback.tickAll`: playback after a sequence of ticks.
* `Playback.loopAt`: the loop that the show is in at a time.

## Main statements

* `Playback.tick_tickAll`: what a tick does after others.
* `Playback.isBefore_iff`: when a tick reports a wrap.
* `Playback.loops_tickAll`: the wraps of a run count its loops.
* `Playback.tick_of_monotone`: all of it, for a run with a clock that does not go back.
-/

namespace Slideshow.Playback

section Ticks

variable {α : Type} [Scalar α]

/-- Playback after a tick at each of `times`. -/
def tickAll (p : Playback α) (times : List α) : Playback α :=
  times.foldl (fun p now => (p.tick now).2) p

theorem tickAll_concat (p : Playback α) (times : List α) (now : α) :
    p.tickAll (times ++ [now]) = ((p.tickAll times).tick now).2 :=
  List.foldl_concat ..

/-- Ticks leave the timeline and the start of the show alone. -/
theorem tickAll_of_started {p : Playback α} (h : p.clock.started = true) (times : List α) :
    (p.tickAll times).timeline = p.timeline ∧ (p.tickAll times).clock.started = true ∧
      (p.tickAll times).clock.frameStart = p.clock.frameStart := by
  induction times using List.reverseRecOn with
  | nil => exact ⟨rfl, h, rfl⟩
  | append_singleton times now ih =>
    rw [tickAll_concat, tick, if_pos ih.2.1]
    exact ih

/-- Of the ticks before, a tick sees the last one only. -/
theorem tick_tickAll {p : Playback α} (h : p.clock.started = true) (times : List α) (now : α) :
    let time := Loop.wrap (now - p.clock.frameStart) p.timeline.length
    let before := p.tickAll times
    (before.tick now).1 = Clock.isBefore time before.clock.previous ∧
      (before.tick now).2.clock.frameTime = time ∧
      (before.tick now).2.clock.previous = some time ∧
      (before.tick now).2.loops =
        if (before.tick now).1 then before.loops + 1 else before.loops := by
  obtain ⟨htimeline, hstarted, hstart⟩ := tickAll_of_started h times
  intro time before
  have htick : before.tick now =
      (Clock.isBefore time before.clock.previous, { before with
        clock := { before.clock with frameTime := time, previous := some time }
        loops := if Clock.isBefore time before.clock.previous then before.loops + 1
          else before.loops }) := by
    rw [tick, if_pos hstarted, htimeline, hstart]
  rw [htick]
  exact ⟨rfl, rfl, rfl, rfl⟩

end Ticks

variable {timeline : Timeline Rat} (start : Rat) {previous now : Rat}

/-- The show that begins at `start`. -/
def begun (timeline : Timeline Rat) (start : Rat) : Playback Rat :=
  (Playback.start start (ofTimeline timeline)).2

/-- How many loops are over at a time. -/
def loopAt (timeline : Timeline Rat) (start now : Rat) : Int :=
  Loop.number timeline.length (now - start)

theorem previous_tickAll_concat (times : List Rat) :
    ((begun timeline start).tickAll (times ++ [previous])).clock.previous =
      some (Loop.wrap (previous - start) timeline.length) := by
  rw [tickAll_concat]
  exact (tick_tickAll (p := begun timeline start) rfl times previous).2.2.1

/-- A time is earlier in its loop than one before it was in its own if less time has passed than the
loops that have begun in between take. -/
theorem isBefore_iff (hlength : 0 < timeline.length) :
    Clock.isBefore (Loop.wrap (now - start) timeline.length)
        (some (Loop.wrap (previous - start) timeline.length)) = true ↔
      now - previous <
        (loopAt timeline start now - loopAt timeline start previous) * timeline.length := by
  rw [Clock.isBefore, decide_eq_true_iff, Loop.wrap_eq hlength, Loop.wrap_eq hlength]
  unfold loopAt
  constructor <;> intro h <;> linarith

/-- Where less than a whole loop passes, no more than one loop begins. -/
theorem loopAt_le_add_one (hlength : 0 < timeline.length)
    (hgap : now - previous < timeline.length) :
    loopAt timeline start now ≤ loopAt timeline start previous + 1 := by
  unfold loopAt
  have hupper := Loop.le_number_add_one_mul hlength (previous - start)
  obtain hle | hlt := le_or_gt (now - start) timeline.length
  · rw [Loop.number_of_le hle]
    have := Loop.number_nonneg hlength (previous - start)
    omega
  · have hlower := Loop.number_mul_lt hlength hlt
    have hcast : (Loop.number timeline.length (now - start) : Rat) <
        Loop.number timeline.length (previous - start) + 1 + 1 := by
      refine lt_of_mul_lt_mul_right ?_ hlength.le
      linarith
    norm_cast at hcast
    omega

/-- Where less than a whole loop passes between two ticks, the later one reports a wrap just if a
loop has begun in between. -/
theorem sub_lt_iff_loopAt_lt (hlength : 0 < timeline.length) (hle : previous ≤ now)
    (hgap : now - previous < timeline.length) :
    now - previous <
        (loopAt timeline start now - loopAt timeline start previous) * timeline.length ↔
      loopAt timeline start previous < loopAt timeline start now := by
  have hmono : loopAt timeline start previous ≤ loopAt timeline start now :=
    Loop.number_mono hlength (by linarith)
  constructor
  · intro h
    refine lt_of_le_of_ne hmono fun heq => ?_
    rw [heq, sub_self, zero_mul] at h
    linarith
  · intro h
    have hone : (1 : Rat) ≤ loopAt timeline start now - loopAt timeline start previous := by
      have : (loopAt timeline start previous : Rat) + 1 ≤ loopAt timeline start now := by
        exact_mod_cast h
      linarith
    calc now - previous < 1 * timeline.length := by linarith
      _ ≤ _ := mul_le_mul_of_nonneg_right hone hlength.le

theorem wrapped_nil (now : Rat) : ((begun timeline start).tick now).1 = true := by
  rfl

theorem wrapped_concat (hlength : 0 < timeline.length) (times : List Rat) :
    (((begun timeline start).tickAll (times ++ [previous])).tick now).1 = true ↔
      now - previous <
        (loopAt timeline start now - loopAt timeline start previous) * timeline.length := by
  have htick := (tick_tickAll (p := begun timeline start) rfl (times ++ [previous]) now).1
  rw [htick, previous_tickAll_concat]
  exact isBefore_iff start hlength

/-- The wraps of a run count the loops that have begun, and one for the first tick. -/
theorem loops_tickAll (hlength : 0 < timeline.length) {times : List Rat} {first now : Rat}
    (hmono : (times ++ [now]).IsChain (· ≤ ·))
    (hgap : (times ++ [now]).IsChain fun previous now => now - previous < timeline.length)
    (hfirst : (times ++ [now]).head? = some first) :
    (((begun timeline start).tickAll (times ++ [now])).loops : Int) =
      1 + loopAt timeline start now - loopAt timeline start first := by
  -- By induction on the last tick: it counts one if a loop has begun since the tick before.
  induction times using List.reverseRecOn generalizing now with
  | nil =>
    have hnow : now = first := by simpa using hfirst
    have hloops := (tick_tickAll (p := begun timeline start) rfl [] now).2.2.2
    replace hloops : ((begun timeline start).tickAll ([] ++ [now])).loops = 1 := by
      rw [tickAll_concat, hloops]
      rfl
    rw [hloops, hnow]
    omega
  | append_singleton times previous ih =>
    obtain ⟨hmono, -, hle⟩ := List.isChain_append.mp hmono
    obtain ⟨hgap, -, hlt⟩ := List.isChain_append.mp hgap
    replace hle : previous ≤ now := hle previous (by simp) now (by simp)
    replace hlt : now - previous < timeline.length := hlt previous (by simp) now (by simp)
    have hbefore := ih hmono hgap (by simpa using hfirst)
    have hloops := (tick_tickAll (p := begun timeline start) rfl (times ++ [previous]) now).2.2.2
    have hwrapped := (wrapped_concat start hlength times).trans
      (sub_lt_iff_loopAt_lt start hlength hle hlt)
    have hnumber : loopAt timeline start previous ≤ loopAt timeline start now :=
      Loop.number_mono hlength (by linarith)
    have hone := loopAt_le_add_one start hlength hlt
    rw [tickAll_concat, hloops]
    split
    · next h =>
      have hbegun := hwrapped.mp h
      push_cast
      omega
    · next h =>
      have hsame := mt hwrapped.mpr h
      omega

/-- A show whose clock does not go back. Every tick finds the time that has passed less the loops
that are over, and reports a wrap if it is the first one, or if less time has passed since the tick
before than the loops that have begun in between take. While no whole loop passes between two ticks,
wraps are reported just when a loop has begun, and the loops are counted. -/
theorem tick_of_monotone (timeline : Timeline Rat) (start now : Rat) (earlier : List Rat)
    (hlength : 0 < timeline.length) (hmono : (start :: (earlier ++ [now])).IsChain (· ≤ ·)) :
    let p := (begun timeline start).tickAll earlier
    let time := (p.tick now).2.clock.frameTime
    let wrapped := (p.tick now).1
    time = now - start - loopAt timeline start now * timeline.length ∧
    0 ≤ time ∧ time ≤ timeline.length ∧
    (wrapped = true ↔ earlier = [] ∨ ∃ previous, earlier.getLast? = some previous ∧
      now - previous <
        (loopAt timeline start now - loopAt timeline start previous) * timeline.length) ∧
    ((earlier ++ [now]).IsChain (fun previous now => now - previous < timeline.length) →
      (∀ previous, earlier.getLast? = some previous →
        (wrapped = true ↔ loopAt timeline start previous < loopAt timeline start now)) ∧
      ∀ first, (earlier ++ [now]).head? = some first →
        ((p.tick now).2.loops : Int) =
          1 + loopAt timeline start now - loopAt timeline start first) := by
  intro p time wrapped
  obtain ⟨-, htime, -, -⟩ := tick_tickAll (p := begun timeline start) rfl earlier now
  replace htime : time = Loop.wrap (now - start) timeline.length := htime
  have hstart : start ≤ now := hmono.rel_cons (by simp)
  obtain ⟨hlower, hupper⟩ := Loop.wrap_mem hlength (sub_nonneg.mpr hstart)
  have hwrapped : ∀ previous, earlier.getLast? = some previous →
      (wrapped = true ↔ now - previous <
        (loopAt timeline start now - loopAt timeline start previous) * timeline.length) := by
    intro previous hprevious
    obtain ⟨times, rfl⟩ := List.getLast?_eq_some_iff.mp hprevious
    exact wrapped_concat start hlength times
  refine ⟨htime.trans (Loop.wrap_eq hlength _), htime ▸ hlower, htime ▸ hupper, ?_, ?_⟩
  · cases hlast : earlier.getLast? with
    | none =>
      obtain rfl := List.getLast?_eq_none_iff.mp hlast
      simp [wrapped, p, tickAll, wrapped_nil]
    | some previous =>
      have hne : earlier ≠ [] := by
        rintro rfl
        simp at hlast
      simp [hwrapped previous hlast, hne]
  · intro hgap
    refine ⟨fun previous hprevious => ?_, fun first hfirst => ?_⟩
    · obtain ⟨times, rfl⟩ := List.getLast?_eq_some_iff.mp hprevious
      have hle : previous ≤ now :=
        (List.isChain_append.mp hmono.tail).2.2 previous (by simp) now (by simp)
      have hlt : now - previous < timeline.length :=
        (List.isChain_append.mp hgap).2.2 previous (by simp) now (by simp)
      exact (hwrapped previous hprevious).trans (sub_lt_iff_loopAt_lt start hlength hle hlt)
    · have hloops := loops_tickAll start hlength hmono.tail hgap hfirst
      rwa [tickAll_concat] at hloops

/-- A show of five seconds that begins at one. Its third tick comes at the very end of the first
loop, which belongs to it; so the next one reports the second loop. -/
theorem tick_of_monotone_end :
    let timeline : Timeline Rat := .add .empty ⟨"a.jpg", ⟨0, 0⟩, ⟨1, 1⟩, 0, 5, 1, 1⟩
    let p := (begun timeline 1).tickAll [1, 3, 6]
    0 < timeline.length ∧ ([1, 1, 3, 6, 8] : List Rat).IsChain (· ≤ ·) ∧
      p.clock.frameTime = 5 ∧ p.loops = 1 ∧ (p.tick 8).1 = true ∧
      (p.tick 8).2.clock.frameTime = 2 ∧ (p.tick 8).2.loops = 2 := by
  intro timeline p
  have hlength : 0 < timeline.length := by decide +kernel
  have hmono : ([1, 1, 3, 6, 8] : List Rat).IsChain (· ≤ ·) := by decide +kernel
  have hgap : ([1, 3, 6, 8] : List Rat).IsChain fun previous now =>
      now - previous < timeline.length := by
    decide +kernel
  obtain ⟨htime, -, -, -, hsteady⟩ := tick_of_monotone timeline 1 8 [1, 3, 6] hlength hmono
  obtain ⟨hwrapped, hloops⟩ := hsteady hgap
  refine ⟨hlength, hmono, by decide +kernel, by decide +kernel, ?_, ?_, ?_⟩
  · exact (hwrapped 6 rfl).mpr (by decide +kernel)
  · exact htime.trans (by decide +kernel)
  · have htwo : 1 + loopAt timeline 1 8 - loopAt timeline 1 1 = 2 := by decide +kernel
    exact_mod_cast (hloops 1 rfl).trans htwo

end Slideshow.Playback
