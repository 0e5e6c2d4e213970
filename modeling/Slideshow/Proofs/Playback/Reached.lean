import Slideshow.Proofs.Playback.Calls
import Slideshow.Proofs.Playback.Folding
import Slideshow.Proofs.Timeline.Finite

/-!
# States that playback gets into

Playback is told finite times, and it answers if folding the time that has passed comes to an end.
Over binary64 numbers the clock may then be infinitely early, since a difference of finite times may
be too large, but it is never infinitely late.

## Main definitions

* `Playback.Answers`, `Playback.Reached`: the states after calls that were answered.
* `Playback.Sound`: what is true of all of them.

## Main statements

* `Loop.WrapsTo.wrap_eq`: where folding ends.
* `Playback.Sound.call`, `Playback.Reached.sound`: one call, and any number of calls.
* `Playback.Sound.atMost_opacity`: the opacities in such a state.
-/

namespace Slideshow

open Binary64

theorem belowInfinity_iff {a : Float} :
    Scalar.belowInfinity a = true ↔ IsFinite a ∨ exact a = .error .negativeInfinity := by
  have hexact : Scalar.exact a = exact a := rfl
  rw [Scalar.belowInfinity, IsFinite, hexact]
  cases exact a with
  | ok x => simp
  | error kind => cases kind <;> simp

theorem ne_infinite_of_belowInfinity {a : Float} (h : Scalar.belowInfinity a = true) :
    exact a ≠ .error .positiveInfinity := by
  obtain h | h := belowInfinity_iff.mp h
  · exact h.ne_infinite
  · rw [h]
    exact nofun

namespace Loop

variable {period time result : Float} {p t : Rat}

/-- Folding does not make a finite time infinite. -/
theorem FoldsTo.isFinite (h : FoldsTo period time result) (htime : exact time = .ok t)
    (hperiod : exact period = .ok p) (hpos : 0 < p) : IsFinite result := by
  induction h generalizing t with
  | stay => exact ⟨t, htime⟩
  | pass hlt _ ih =>
    have hle := ((lt_iff hperiod htime).mp hlt).le
    exact ih (exact_sub_of_le htime hperiod hpos.le hle)

/-- What is within the loop is found without a pass. -/
theorem exists_wrapsTo_of_not_lt (h : ¬period < time) : ∃ result, WrapsTo period time result := by
  by_cases hflat : period ≤ Scalar.ofInt 0
  · exact ⟨_, wrapsTo_wrap_of_le hflat⟩
  · exact ⟨time, (wrapsTo_iff hflat).mpr (.stay h)⟩

/-- If folding answers, its answer is the time that `wrap` gives, which is not infinitely late. -/
theorem WrapsTo.wrap_eq (h : WrapsTo period time result) (htime : exact time = settled t)
    (hperiod : exact period = .ok p) :
    wrap time period = result ∧ Scalar.belowInfinity result = true := by
  by_cases hflat : period ≤ Scalar.ofInt 0
  · obtain rfl := (wrapsTo_iff_of_le hflat).mp h
    exact ⟨wrap_of_le hflat, belowInfinity_iff.mpr (.inl ⟨0, exact_zero⟩)⟩
  · rw [wrapsTo_iff hflat] at h
    have hpos : 0 < p := not_le.mp (mt (le_zero_iff hperiod).mpr hflat)
    rw [settled] at htime
    split at htime
    · exact ⟨h.wrap_eq htime hperiod hpos,
        belowInfinity_iff.mpr (.inl (h.isFinite htime hperiod hpos))⟩
    · split at htime
      · exact absurd h (not_foldsTo_of_infinite htime hperiod result)
      · -- An infinitely early time is within the loop already.
        have hstay : ¬period < time := not_lt_of_negativeInfinity hperiod htime
        cases h with
        | stay =>
          refine ⟨?_, belowInfinity_iff.mpr (.inr htime)⟩
          rw [wrap_eq_fold hperiod hpos]
          cases passBound time period with
          | zero => rfl
          | succ passes => exact if_neg hstay
        | pass hlt => exact absurd hlt hstay

end Loop

namespace Playback

variable {timeline : Timeline Float} {p : Playback Float} {c : Call Float}

/-- The time that a call tells. -/
def Call.now {α : Type} : Call α → α
  | .start now | .tick now => now

/-- Whether a call is answered. A tick of a show that has begun folds the time that has passed, and
that has to come to an end. -/
def Answers (p : Playback Float) : Call Float → Prop
  | .start _ => True
  | .tick now => p.clock.started = true →
      ∃ time, Loop.WrapsTo p.timeline.length (now - p.clock.frameStart) time

/-- Playback of a timeline after calls at finite times that were all answered. -/
inductive Reached (timeline : Timeline Float) : Playback Float → Prop
  | unbegun : Reached timeline (ofTimeline timeline)
  | call {p : Playback Float} {c : Call Float} : Reached timeline p → IsFinite c.now →
      Answers p c → Reached timeline (p.call c).2

/-- A clock that can be reckoned with: infinitely early at worst. -/
structure Sound (timeline : Timeline Float) (p : Playback Float) : Prop where
  sameTimeline : p.timeline = timeline
  frameStart : IsFinite p.clock.frameStart
  frameTime : Scalar.belowInfinity p.clock.frameTime = true

theorem sound_ofTimeline (timeline : Timeline Float) : Sound timeline (ofTimeline timeline) :=
  ⟨rfl, ⟨0, exact_zero⟩, belowInfinity_iff.mpr (.inl ⟨0, exact_zero⟩)⟩

theorem Sound.call (hp : Sound timeline p) (htimeline : IsFinite timeline.length)
    (hnow : IsFinite c.now) (hc : Answers p c) : Sound timeline (p.call c).2 := by
  cases c with
  | start now =>
    rw [Playback.call, Playback.start]
    split
    · exact hp
    · exact ⟨hp.sameTimeline, hnow, hp.frameTime⟩
  | tick now =>
    rw [Playback.call, tick]
    split
    · next hstarted =>
      obtain ⟨time, htime⟩ := hc hstarted
      obtain ⟨n, hn⟩ := hnow
      obtain ⟨s, hs⟩ := hp.frameStart
      obtain ⟨length, hlength⟩ := hp.sameTimeline ▸ htimeline
      obtain ⟨hwrap, hbelow⟩ := htime.wrap_eq (exact_sub hn hs) hlength
      exact ⟨hp.sameTimeline, hp.frameStart, hwrap ▸ hbelow⟩
    · exact hp

theorem Reached.sound (hp : Reached timeline p) (htimeline : IsFinite timeline.length) :
    Sound timeline p := by
  induction hp with
  | unbegun => exact sound_ofTimeline timeline
  | call _ hnow hc ih => exact ih.call htimeline hnow hc

/-- Every opacity is a number from zero to one. -/
theorem Sound.atMost_opacity (hp : Sound timeline p) (htimed : ∀ item ∈ timeline.layers, item.Timed)
    {entry : Item Float × Float} (hentry : entry ∈ p.opacities) : AtMost entry.2 1 := by
  obtain ⟨item, hmem, rfl⟩ := List.mem_map.mp hentry
  have hitem := htimed item (hp.sameTimeline ▸ hmem)
  obtain htime | htime := belowInfinity_iff.mp hp.frameTime
  · exact Item.atMost_opacityAt hitem htime
  · obtain ⟨s, hs⟩ := hitem.start
    show AtMost (item.opacityAt p.clock.frameTime) 1
    rw [Item.opacityAt_of_lt (lt_of_negativeInfinity htime hs)]
    exact atMost_zero zero_le_one

end Playback

end Slideshow
