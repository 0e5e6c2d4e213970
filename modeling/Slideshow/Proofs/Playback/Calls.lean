import Mathlib.Algebra.Order.Ring.Rat
import Mathlib.Data.List.Induction
import Slideshow.Playback.Basic

/-!
# Calls in any order

Playback is told to begin and to move its clock, in whatever order its callers like, more than once,
and perhaps with a clock that goes back. Of all this it keeps when it was first told to begin, what
time it was last told since then, and how often a loop began.

## Main definitions

* `Playback.Call`: the two things that playback is told.
* `Playback.callAll`, `Playback.answers`: playback after calls, and what it answered.
* `Playback.firstStart`, `Playback.shownAt`: what the calls amount to.
* `Playback.Heard`: what playback keeps of them.

## Main statements

* `Playback.Heard.call`, `Playback.heard_callAll`: one call, and any number of calls.
* `Playback.loops_callAll`: the loops are the ticks that reported one.
* `Playback.state_callAll`: all of it, for exact times.
-/

namespace Slideshow.Playback

/-- What playback is told: to begin, or to move its clock. -/
inductive Call (α : Type) where
  | start (now : α)
  | tick (now : α)
  deriving DecidableEq, Repr

section History

variable {α : Type} {calls : List (Call α)}

namespace Call

def start? : Call α → Option α
  | start now => some now
  | tick _ => none

def tick? : Call α → Option α
  | start _ => none
  | tick now => some now

end Call

/-- Whether an answered call is a tick that reported a loop. -/
def isWrap (answered : Call α × Bool) : Bool :=
  answered.1.tick?.isSome && answered.2

/-- The time at which playback was first told to begin. -/
def firstStart (calls : List (Call α)) : Option α :=
  calls.findSome? Call.start?

/-- The times that playback was told after it had begun. -/
def shownAt : List (Call α) → List α
  | [] => []
  | .tick _ :: calls => shownAt calls
  | .start _ :: calls => calls.filterMap Call.tick?

theorem firstStart_concat (calls : List (Call α)) (c : Call α) :
    firstStart (calls ++ [c]) = (firstStart calls).or c.start? := by
  rw [firstStart, List.findSome?_append]
  cases c <;> rfl

theorem firstStart_concat_tick (calls : List (Call α)) (now : α) :
    firstStart (calls ++ [.tick now]) = firstStart calls := by
  rw [firstStart_concat, Call.start?, Option.or_none]

theorem shownAt_concat (calls : List (Call α)) (c : Call α) :
    shownAt (calls ++ [c]) =
      if (firstStart calls).isSome then shownAt calls ++ c.tick?.toList else [] := by
  induction calls with
  | nil => cases c <;> rfl
  | cons first calls ih =>
    cases first with
    | tick now => exact ih
    | start now =>
      show (calls ++ [c]).filterMap Call.tick? = calls.filterMap Call.tick? ++ c.tick?.toList
      rw [List.filterMap_append]
      cases c <;> rfl

/-- Before playback begins nothing is shown. -/
theorem shownAt_of_firstStart_eq_none (h : firstStart calls = none) : shownAt calls = [] := by
  induction calls with
  | nil => rfl
  | cons first calls ih =>
    cases first with
    | start now => cases h
    | tick now => exact ih h

theorem shownAt_concat_start (calls : List (Call α)) (now : α) :
    shownAt (calls ++ [.start now]) = shownAt calls := by
  rw [shownAt_concat]
  cases hfirst : firstStart calls with
  | none => exact (shownAt_of_firstStart_eq_none hfirst).symm
  | some first => exact List.append_nil _

end History

section Calls

variable {α : Type} [Scalar α] {timeline : Timeline α} {calls : List (Call α)} {p : Playback α}

/-- Does what playback is told, and answers. -/
def call (p : Playback α) : Call α → Bool × Playback α
  | .start now => p.start now
  | .tick now => p.tick now

/-- Playback after calls. -/
def callAll (p : Playback α) (calls : List (Call α)) : Playback α :=
  calls.foldl (fun p c => (p.call c).2) p

/-- The calls, each with the answer to it. -/
def answers (p : Playback α) : List (Call α) → List (Call α × Bool)
  | [] => []
  | c :: calls => (c, (p.call c).1) :: answers (p.call c).2 calls

theorem callAll_cons (p : Playback α) (c : Call α) (calls : List (Call α)) :
    p.callAll (c :: calls) = (p.call c).2.callAll calls :=
  rfl

theorem callAll_concat (p : Playback α) (calls : List (Call α)) (c : Call α) :
    p.callAll (calls ++ [c]) = ((p.callAll calls).call c).2 :=
  List.foldl_append ..

/-- What playback keeps of the calls it has heard. -/
structure Heard (timeline : Timeline α) (calls : List (Call α)) (p : Playback α) : Prop where
  sameTimeline : p.timeline = timeline
  started : p.clock.started = (firstStart calls).isSome
  frameStart : p.clock.frameStart = (firstStart calls).getD 0
  previous : p.clock.previous =
    (shownAt calls).getLast?.map fun now => Loop.wrap (now - p.clock.frameStart) timeline.length
  frameTime : p.clock.frameTime = p.clock.previous.getD 0

theorem heard_ofTimeline (timeline : Timeline α) : Heard timeline [] (ofTimeline timeline) :=
  ⟨rfl, rfl, rfl, rfl, rfl⟩

/-- The first start alone is heeded. -/
theorem Heard.start (h : Heard timeline calls p) (now : α) :
    (p.start now).1 = (firstStart calls).isNone ∧
      Heard timeline (calls ++ [.start now]) (p.start now).2 := by
  have hstarted := h.started
  cases hfirst : firstStart calls with
  | some first =>
    have hkept : firstStart (calls ++ [.start now]) = firstStart calls := by
      rw [firstStart_concat, hfirst]
      rfl
    replace hstarted : p.clock.started = true := by rw [hstarted, hfirst]; rfl
    rw [Playback.start, if_pos hstarted]
    refine ⟨rfl, h.sameTimeline, ?_, ?_, ?_, h.frameTime⟩
    · rw [hkept]
      exact h.started
    · rw [hkept]
      exact h.frameStart
    · rw [shownAt_concat_start]
      exact h.previous
  | none =>
    have hbegun : firstStart (calls ++ [.start now]) = some now := by
      rw [firstStart_concat, hfirst]
      rfl
    replace hstarted : p.clock.started = false := by rw [hstarted, hfirst]; rfl
    rw [Playback.start, if_neg (by rw [hstarted]; exact Bool.false_ne_true)]
    refine ⟨rfl, h.sameTimeline, ?_, ?_, ?_, h.frameTime⟩
    · rw [hbegun]
      rfl
    · rw [hbegun]
      rfl
    · -- No time was shown that the new beginning could be taken off.
      rw [shownAt_concat_start]
      have hprevious := h.previous
      rw [shownAt_of_firstStart_eq_none hfirst] at hprevious ⊢
      exact hprevious

/-- A tick before the show is not heeded. -/
theorem Heard.tick_of_none (h : Heard timeline calls p) (hfirst : firstStart calls = none)
    (now : α) : p.tick now = (false, p) ∧ Heard timeline (calls ++ [.tick now]) p := by
  have hstarted : p.clock.started = false := by rw [h.started, hfirst]; rfl
  have hshown : shownAt (calls ++ [.tick now]) = shownAt calls := by
    rw [shownAt_concat, hfirst, shownAt_of_firstStart_eq_none hfirst]
    rfl
  refine ⟨?_, h.sameTimeline, ?_, ?_, ?_, h.frameTime⟩
  · rw [Playback.tick, if_neg (by rw [hstarted]; exact Bool.false_ne_true)]
  · rw [firstStart_concat_tick]
    exact h.started
  · rw [firstStart_concat_tick]
    exact h.frameStart
  · rw [hshown]
    exact h.previous

/-- A tick of a show that has begun sets the clock by the time that it is told. -/
theorem Heard.tick_of_isSome (h : Heard timeline calls p)
    (hfirst : (firstStart calls).isSome = true) (now : α) :
    (p.tick now).1 =
        Clock.isBefore (Loop.wrap (now - p.clock.frameStart) timeline.length) p.clock.previous ∧
      Heard timeline (calls ++ [.tick now]) (p.tick now).2 := by
  have hshown : shownAt (calls ++ [.tick now]) = shownAt calls ++ [now] := by
    rw [shownAt_concat, if_pos hfirst]
    rfl
  rw [Playback.tick, if_pos (h.started.trans hfirst), h.sameTimeline]
  refine ⟨rfl, rfl, ?_, ?_, ?_, rfl⟩
  · rw [firstStart_concat_tick]
    exact h.started
  · rw [firstStart_concat_tick]
    exact h.frameStart
  · rw [hshown, List.getLast?_concat]
    rfl

theorem Heard.call (h : Heard timeline calls p) (c : Call α) :
    Heard timeline (calls ++ [c]) (p.call c).2 := by
  cases c with
  | start now => exact (h.start now).2
  | tick now =>
    cases hfirst : firstStart calls with
    | some first => exact (h.tick_of_isSome (by rw [hfirst]; rfl) now).2
    | none =>
      obtain ⟨htick, hheard⟩ := h.tick_of_none hfirst now
      show Heard timeline _ (p.tick now).2
      rw [htick]
      exact hheard

theorem heard_callAll (timeline : Timeline α) (calls : List (Call α)) :
    Heard timeline calls ((ofTimeline timeline).callAll calls) := by
  induction calls using List.reverseRecOn with
  | nil => exact heard_ofTimeline timeline
  | append_singleton calls c ih =>
    rw [callAll_concat]
    exact ih.call c

/-- No call undoes the beginning of a show. -/
theorem clock_call_of_started (h : p.clock.started = true) (c : Call α) :
    (p.call c).2.clock.started = true ∧ (p.call c).2.clock.frameStart = p.clock.frameStart := by
  cases c with
  | start now =>
    rw [call, Playback.start, if_pos h]
    exact ⟨h, rfl⟩
  | tick now =>
    rw [call, tick, if_pos h]
    exact ⟨h, rfl⟩

theorem clock_callAll_of_started (h : p.clock.started = true) (calls : List (Call α)) :
    (p.callAll calls).clock.started = true ∧
      (p.callAll calls).clock.frameStart = p.clock.frameStart := by
  induction calls generalizing p with
  | nil => exact ⟨h, rfl⟩
  | cons c calls ih =>
    obtain ⟨hstarted, hstart⟩ := clock_call_of_started h c
    rw [callAll_cons, ← hstart]
    exact ih hstarted

theorem loops_call (p : Playback α) (c : Call α) :
    (p.call c).2.loops = p.loops + if isWrap (c, (p.call c).1) then 1 else 0 := by
  cases c with
  | start now =>
    rw [call, Playback.start]
    cases p.clock.started <;> rfl
  | tick now =>
    rw [call, tick]
    split
    · exact apply_ite (p.loops + ·) _ 1 0 |>.symm
    · rfl

/-- Every loop was reported by a tick. -/
theorem loops_callAll (p : Playback α) (calls : List (Call α)) :
    (p.callAll calls).loops = p.loops + (p.answers calls).countP isWrap := by
  induction calls generalizing p with
  | nil => rfl
  | cons c calls ih =>
    rw [callAll_cons, ih, loops_call, answers, List.countP_cons]
    omega

end Calls

section Exact

variable {timeline : Timeline Rat} {calls : List (Call Rat)} {p : Playback Rat}

/-- The first tick of a show reports a loop, for there was none before it. -/
theorem Heard.tick_first (h : Heard timeline calls p) (hfirst : (firstStart calls).isSome = true)
    (hnone : shownAt calls = []) (now : Rat) : (p.tick now).1 = true := by
  have hprevious := h.previous
  rw [hnone] at hprevious
  rw [(h.tick_of_isSome hfirst now).1, hprevious]
  rfl

theorem one_le_loops (timeline : Timeline Rat) (h : shownAt calls ≠ []) :
    1 ≤ ((ofTimeline timeline).callAll calls).loops := by
  induction calls using List.reverseRecOn with
  | nil => exact absurd rfl h
  | append_singleton calls c ih =>
    rw [callAll_concat, loops_call]
    by_cases hnone : shownAt calls = []
    · have hfirst : (firstStart calls).isSome = true := by
        by_contra hfirst
        rw [shownAt_concat, if_neg hfirst] at h
        exact h rfl
      cases c with
      | start now =>
        rw [shownAt_concat_start] at h
        exact absurd hnone h
      | tick now =>
        have hwrap : isWrap (.tick now,
            (((ofTimeline timeline).callAll calls).call (.tick now)).1) = true :=
          (heard_callAll timeline calls).tick_first hfirst hnone now
        rw [if_pos hwrap]
        omega
    · have := ih hnone
      omega

/-- In a show without length the clock stands still, and only the first tick reports a loop. -/
theorem Heard.of_length_le (h : Heard timeline calls p) (hlength : timeline.length ≤ 0) :
    p.clock.frameTime = 0 ∧
      ∀ now, (p.tick now).1 = true ↔ (firstStart calls).isSome = true ∧ shownAt calls = [] := by
  have hwrap (time : Rat) : Loop.wrap time timeline.length = 0 := if_pos hlength
  have hprevious := h.previous
  simp only [hwrap] at hprevious
  refine ⟨?_, fun now => ⟨fun htick => ?_, fun hshown => h.tick_first hshown.1 hshown.2 now⟩⟩
  · rw [h.frameTime, hprevious]
    cases (shownAt calls).getLast? <;> rfl
  · cases hfirst : firstStart calls with
    | none =>
      rw [(h.tick_of_none hfirst now).1] at htick
      cases htick
    | some first =>
      rw [(h.tick_of_isSome (by rw [hfirst]; rfl) now).1, hwrap, hprevious] at htick
      cases hlast : (shownAt calls).getLast? with
      | none => exact ⟨rfl, List.getLast?_eq_none_iff.mp hlast⟩
      | some last =>
        rw [hlast] at htick
        exact absurd (show (0 : Rat) < 0 from of_decide_eq_true htick) (lt_irrefl 0)

/-- Calls of exact times in any order. Playback begins with the first start, which alone is answered
with yes, and goes on for ever. Ticks before it are answered with no and change nothing. From then
on the clock shows the time of the last tick, folded into the loop, and until there is one it stands
at zero, after infinity. The loops are the ticks that reported one, and the first tick of the show
did. In a show without length the clock stands at zero, and no other tick does. -/
theorem state_callAll (timeline : Timeline Rat) (calls : List (Call Rat)) :
    let p := (ofTimeline timeline).callAll calls
    (∀ now, (p.start now).1 = (firstStart calls).isNone) ∧
    (p.clock.started = (firstStart calls).isSome ∧
      ∀ first, firstStart calls = some first → p.clock.frameStart = first) ∧
    (p.clock.started = true → ∀ more,
      (p.callAll more).clock.started = true ∧
        (p.callAll more).clock.frameStart = p.clock.frameStart) ∧
    (firstStart calls = none → ∀ now, p.tick now = (false, p)) ∧
    (∀ last, (shownAt calls).getLast? = some last →
      p.clock.frameTime = Loop.wrap (last - p.clock.frameStart) timeline.length ∧
        p.clock.previous = some p.clock.frameTime) ∧
    (shownAt calls = [] → p.clock.frameTime = 0 ∧ p.clock.previous = none) ∧
    p.loops = ((ofTimeline timeline).answers calls).countP isWrap ∧
    (shownAt calls ≠ [] → 1 ≤ p.loops) ∧
    (timeline.length ≤ 0 → p.clock.frameTime = 0 ∧
      ∀ now, (p.tick now).1 = true ↔ (firstStart calls).isSome = true ∧ shownAt calls = []) := by
  intro p
  have h := heard_callAll timeline calls
  refine ⟨fun now => (h.start now).1, ⟨h.started, fun first hfirst => ?_⟩, clock_callAll_of_started,
    fun hfirst now => (h.tick_of_none hfirst now).1, fun last hlast => ?_, fun hnone => ?_, ?_,
    one_le_loops timeline, h.of_length_le⟩
  · rw [h.frameStart, hfirst]
    rfl
  · have hprevious := h.previous
    rw [hlast] at hprevious
    rw [h.frameTime, hprevious]
    exact ⟨rfl, rfl⟩
  · have hprevious := h.previous
    rw [hnone] at hprevious
    rw [h.frameTime, hprevious]
    exact ⟨rfl, rfl⟩
  · rw [loops_callAll]
    exact Nat.zero_add _

/-- A tick before the show, a second start and a clock that goes back: the show began at 10, and the
last tick comes 4 seconds before that, which is still its time. -/
example :
    let timeline : Timeline Rat := .add .empty ⟨"a.jpg", ⟨0, 0⟩, ⟨1, 1⟩, 0, 5, 1, 1⟩
    let p := (ofTimeline timeline).callAll [.tick 3, .start 10, .tick 22, .start 30, .tick 6]
    p.clock = ⟨true, 10, -4, some (-4)⟩ ∧ p.loops = 2 := by
  decide +kernel

end Exact

end Slideshow.Playback
