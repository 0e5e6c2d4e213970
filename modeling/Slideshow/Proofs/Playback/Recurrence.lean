import Slideshow.Proofs.Playback.Calls
import Slideshow.Proofs.Playback.LoopNumber
import Slideshow.Proofs.Timeline.Opacity

/-!
# The loop shows everything, again and again

A loop is long enough for every item of a show, so that nothing that is to be seen falls behind its
end. What is seen at a time behind the beginning is seen again after any number of loops.

## Main statements

* `Loop.wrap_add_mul`: whole loops are folded away.
* `Playback.tick_of_elapsed`: what that means for a tick.
-/

namespace Slideshow

namespace Loop

variable {period time : Rat}

theorem wrap_of_lt (hperiod : 0 < period) (h : time < period) : wrap time period = time := by
  rw [wrap_eq hperiod, number_of_le h.le]
  simp

/-- A number of loops more are over that many loops later. -/
theorem number_add_mul (hperiod : 0 < period) (htime : 0 < time) (k : Nat) :
    number period (time + k * period) = number period time + k := by
  obtain ⟨hlower, hupper⟩ := (number_eq_iff hperiod htime).mp rfl
  have hloops : 0 ≤ (k : Rat) * period := by positivity
  rw [number_eq_iff hperiod (by linarith)]
  push_cast
  constructor <;> linarith

/-- Whole loops are folded away. Only the very beginning is not found again, because the end of a
loop belongs to it. -/
theorem wrap_add_mul (hperiod : 0 < period) (htime : 0 < time) (k : Nat) :
    wrap (time + k * period) period = wrap time period := by
  rw [wrap_eq hperiod, wrap_eq hperiod, number_add_mul hperiod htime]
  push_cast
  ring

end Loop

namespace Playback

section Ticks

variable {α : Type} [Scalar α] {p q : Playback α}

theorem timeline_callAll (p : Playback α) (calls : List (Call α)) :
    (p.callAll calls).timeline = p.timeline := by
  induction calls generalizing p with
  | nil => rfl
  | cons c calls ih =>
    rw [callAll_cons, ih]
    cases c with
    | start now => rw [call, Playback.start]; split <;> rfl
    | tick now => rw [call, tick]; split <;> rfl

theorem tick_of_started (h : p.clock.started = true) (now : α) :
    (p.tick now).2.timeline = p.timeline ∧ (p.tick now).2.clock.started = true ∧
      (p.tick now).2.clock.frameTime =
        Loop.wrap (now - p.clock.frameStart) p.timeline.length := by
  rw [tick, if_pos h]
  exact ⟨rfl, h, rfl⟩

/-- What shows depends on nothing but the items and the time in the loop. -/
theorem visible_congr (htimeline : p.timeline = q.timeline)
    (hstarted : p.clock.started = q.clock.started)
    (htime : p.clock.frameTime = q.clock.frameTime) : p.visible = q.visible := by
  rw [visible, visible, opacities, opacities, htimeline, hstarted, htime]

theorem mem_visible (hstarted : p.clock.started = true) {item : Item α}
    (hmem : item ∈ p.timeline.layers) (h : 0 < item.opacityAt p.clock.frameTime) :
    (item, item.opacityAt p.clock.frameTime) ∈ p.visible := by
  rw [visible, if_pos hstarted]
  exact List.mem_filter.mpr ⟨List.mem_map_of_mem hmem, decide_eq_true h⟩

end Ticks

/-- Ticks of a show that has begun, at a time that has passed since then. A time from the beginning
on at which an item is to be seen lies before the end of the loop, so the tick finds that time and
the item shows. Behind the beginning a tick any number of loops later, whatever playback is told in
between, finds the same time, and the same items show. -/
theorem tick_of_elapsed {p : Playback Rat} (hstarted : p.clock.started = true) :
    (∀ item ∈ p.timeline.layers, ∀ elapsed, 0 ≤ elapsed → 0 < item.opacityAt elapsed →
      let after := (p.tick (p.clock.frameStart + elapsed)).2
      elapsed < p.timeline.length ∧ after.clock.frameTime = elapsed ∧
        (item, item.opacityAt elapsed) ∈ after.visible) ∧
    (0 < p.timeline.length → ∀ elapsed, 0 < elapsed → ∀ (k : Nat) (calls : List (Call Rat)),
      let after := (p.tick (p.clock.frameStart + elapsed)).2
      let again := ((p.callAll calls).tick
        (p.clock.frameStart + (elapsed + k * p.timeline.length))).2
      again.clock.frameTime = after.clock.frameTime ∧ again.visible = after.visible) := by
  constructor
  · intro item hmem elapsed hnonneg hseen after
    have hlt : elapsed < p.timeline.length :=
      (Item.mem_of_opacityAt_pos hseen).2.trans_le (Timeline.finish_le_length hmem)
    obtain ⟨htimeline, hafter, htime⟩ := tick_of_started hstarted (p.clock.frameStart + elapsed)
    rw [add_sub_cancel_left, Loop.wrap_of_lt (hnonneg.trans_lt hlt) hlt] at htime
    refine ⟨hlt, htime, ?_⟩
    have hvisible := mem_visible hafter (htimeline ▸ hmem) (by rwa [htime])
    rwa [htime] at hvisible
  · intro hlength elapsed hpos k calls after again
    obtain ⟨hbegun, hstart⟩ := clock_callAll_of_started hstarted calls
    obtain ⟨htimeline, hafter, htime⟩ := tick_of_started hstarted (p.clock.frameStart + elapsed)
    obtain ⟨htimeline', hagain, htime'⟩ := tick_of_started hbegun
      (p.clock.frameStart + (elapsed + k * p.timeline.length))
    rw [timeline_callAll] at htimeline' htime'
    rw [add_sub_cancel_left] at htime
    rw [hstart, add_sub_cancel_left, Loop.wrap_add_mul hlength hpos] at htime'
    have hsame : again.clock.frameTime = after.clock.frameTime := htime'.trans htime.symm
    exact ⟨hsame, visible_congr (htimeline'.trans htimeline.symm) (hagain.trans hafter.symm) hsame⟩

/-- An item that has been on for half a second when the show begins, and ends with it. Three loops
later, after a tick in between, it shows as before. -/
theorem tick_of_elapsed_three :
    let item : Item Rat := ⟨"a.jpg", ⟨0, 0⟩, ⟨1, 1⟩, -1/2, 4, 1, 2⟩
    let p := ((ofTimeline (.add .empty item)).start 10).2
    let after := (p.tick 12).2
    let again := ((p.callAll [.tick 15]).tick (45 / 2)).2
    p.clock.started = true ∧ 0 < p.timeline.length ∧ item ∈ p.timeline.layers ∧
      0 < item.opacityAt 2 ∧ after.clock.frameTime = 2 ∧ (item, 3 / 4) ∈ after.visible ∧
      again.clock.frameTime = 2 ∧ again.visible = after.visible := by
  intro item p after again
  have hlength : 0 < p.timeline.length := by decide +kernel
  have hmem : item ∈ p.timeline.layers := List.mem_singleton.mpr rfl
  have hseen : 0 < item.opacityAt 2 := by decide +kernel
  have hopacity : item.opacityAt 2 = 3 / 4 := by decide +kernel
  obtain ⟨hshown, hagain⟩ := tick_of_elapsed (p := p) rfl
  obtain ⟨-, htime, hvisible⟩ := hshown item hmem 2 (by norm_num) hseen
  have hnow : p.clock.frameStart + 2 = 12 := by decide +kernel
  have hlater : p.clock.frameStart + (2 + (3 : Nat) * p.timeline.length) = 45 / 2 := by
    decide +kernel
  rw [hnow] at htime hvisible
  obtain ⟨htime', hvisible'⟩ := hagain hlength 2 (by norm_num) 3 [.tick 15]
  rw [hnow, hlater] at htime' hvisible'
  exact ⟨rfl, hlength, hmem, hseen, htime, hopacity ▸ hvisible, htime'.trans htime, hvisible'⟩

end Playback

end Slideshow
