import Mathlib.Algebra.Field.Rat
import Mathlib.Algebra.Order.Field.Basic
import Mathlib.Algebra.Order.Ring.Rat
import Mathlib.Tactic.Linarith
import Slideshow.Timeline.Basic

/-!
# When items are seen

What can be seen of an item is seen between its start and its finish, and no item finishes later
than the show. How much is seen of it goes up along one ramp and down along another one, with the
full picture between them if there is room for both.

## Main definitions

* `FadeStage`: how far what is shown has come, with the opacity it has then.

## Main statements

* `fadeStage_opacity`: the opacity is that of the stage.
* `opacity_trapezoid`: it lies between zero and one, and is the lesser of the two ramps there.
* `Item.mem_of_opacityAt_pos`: an item is seen while it is on.
* `Timeline.finish_le_length`: the show lasts as long as its items.
-/

namespace Slideshow

/-- The stages of what is shown for `duration`, each with its opacity at `elapsed` since the start.
Where the fades overlap it is still fading in. -/
inductive FadeStage (elapsed duration fadeIn fadeOut : Rat) : Rat → Prop where
  | waiting (h : elapsed < 0) : FadeStage elapsed duration fadeIn fadeOut 0
  | gone (h : duration ≤ elapsed) : FadeStage elapsed duration fadeIn fadeOut 0
  | fadingIn (hbegun : 0 ≤ elapsed) (hon : elapsed < duration) (hfade : elapsed < fadeIn) :
    FadeStage elapsed duration fadeIn fadeOut (elapsed / fadeIn)
  | fadingOut (hbegun : 0 ≤ elapsed) (hon : elapsed < duration) (hin : fadeIn ≤ elapsed)
    (hfade : duration - elapsed < fadeOut) :
    FadeStage elapsed duration fadeIn fadeOut ((duration - elapsed) / fadeOut)
  | full (hbegun : 0 ≤ elapsed) (hon : elapsed < duration) (hin : fadeIn ≤ elapsed)
    (hout : fadeOut ≤ duration - elapsed) : FadeStage elapsed duration fadeIn fadeOut 1

/-- The opacity is that of the stage. A fade that takes no time is never in progress. -/
theorem fadeStage_opacity (time start duration fadeIn fadeOut : Rat) :
    FadeStage (time - start) duration fadeIn fadeOut
      (opacity time start duration fadeIn fadeOut) := by
  unfold opacity
  dsimp only
  split
  · next hstart => exact .waiting (sub_neg.mpr hstart)
  next hstart =>
  have hbegun : 0 ≤ time - start := sub_nonneg.mpr (not_lt.mp hstart)
  split
  · next hover => exact .gone hover
  next hover =>
  have hon : time - start < duration := not_le.mp hover
  split
  · next hfade => exact .fadingIn hbegun hon hfade.2
  next hfade =>
  have hin : fadeIn ≤ time - start := by
    by_contra hlt
    exact hfade ⟨hbegun.trans_lt (not_le.mp hlt), not_le.mp hlt⟩
  split
  · next hfade' => exact .fadingOut hbegun hon hin hfade'.2
  next hfade' =>
  refine .full hbegun hon hin ?_
  by_contra hlt
  exact hfade' ⟨(sub_pos.mpr hon).trans (not_le.mp hlt), not_le.mp hlt⟩

namespace FadeStage

variable {elapsed duration fadeIn fadeOut x : Rat}

theorem nonneg (h : FadeStage elapsed duration fadeIn fadeOut x) : 0 ≤ x := by
  cases h with
  | waiting | gone => exact le_rfl
  | fadingIn hbegun _ hfade => exact div_nonneg hbegun (hbegun.trans hfade.le)
  | fadingOut _ hon _ hfade =>
    have hleft : 0 ≤ duration - elapsed := sub_nonneg.mpr hon.le
    exact div_nonneg hleft (hleft.trans hfade.le)
  | full => exact zero_le_one

theorem le_one (h : FadeStage elapsed duration fadeIn fadeOut x) : x ≤ 1 := by
  cases h with
  | waiting | gone => exact zero_le_one
  | fadingIn hbegun _ hfade => exact (div_le_one (hbegun.trans_lt hfade)).mpr hfade.le
  | fadingOut _ hon _ hfade =>
    have hleft : 0 < duration - elapsed := sub_pos.mpr hon
    exact (div_le_one (hleft.trans hfade)).mpr hfade.le
  | full => exact le_rfl

theorem mem_of_pos (h : FadeStage elapsed duration fadeIn fadeOut x) (hx : 0 < x) :
    0 ≤ elapsed ∧ elapsed < duration := by
  cases h with
  | waiting | gone => exact absurd hx (lt_irrefl 0)
  | fadingIn hbegun hon | fadingOut hbegun hon | full hbegun hon => exact ⟨hbegun, hon⟩

/-- If both fades fit in, the ramp that does not count is the higher one at every stage. -/
theorem eq_trapezoid (h : FadeStage elapsed duration fadeIn fadeOut x) (hin : 0 < fadeIn)
    (hout : 0 < fadeOut) (hfit : fadeIn + fadeOut ≤ duration) :
    x = max 0 (min 1 (min (elapsed / fadeIn) ((duration - elapsed) / fadeOut))) := by
  cases h with
  | waiting hlt =>
    have hramp : elapsed / fadeIn ≤ 0 := div_nonpos_of_nonpos_of_nonneg hlt.le hin.le
    exact (max_eq_left ((min_le_right ..).trans ((min_le_left ..).trans hramp))).symm
  | gone hle =>
    have hramp : (duration - elapsed) / fadeOut ≤ 0 :=
      div_nonpos_of_nonpos_of_nonneg (sub_nonpos.mpr hle) hout.le
    exact (max_eq_left ((min_le_right ..).trans ((min_le_right ..).trans hramp))).symm
  | fadingIn hbegun _ hfade =>
    have hramp : elapsed / fadeIn ≤ 1 := (div_le_one hin).mpr hfade.le
    have hother : 1 ≤ (duration - elapsed) / fadeOut := (one_le_div hout).mpr (by linarith)
    rw [min_eq_left (hramp.trans hother), min_eq_right hramp,
      max_eq_right (div_nonneg hbegun hin.le)]
  | fadingOut _ hon hbehind hfade =>
    have hramp : (duration - elapsed) / fadeOut ≤ 1 := (div_le_one hout).mpr hfade.le
    have hother : 1 ≤ elapsed / fadeIn := (one_le_div hin).mpr hbehind
    rw [min_eq_right (hramp.trans hother), min_eq_right hramp,
      max_eq_right (div_nonneg (sub_nonneg.mpr hon.le) hout.le)]
  | full _ _ hbehind hbefore =>
    have hramp : 1 ≤ elapsed / fadeIn := (one_le_div hin).mpr hbehind
    have hother : 1 ≤ (duration - elapsed) / fadeOut := (one_le_div hout).mpr hbefore
    rw [min_eq_left (le_min hramp hother), max_eq_right zero_le_one]

end FadeStage

/-- An opacity lies between zero and one, and is positive only from the start on and before the end,
whatever the signs of the numbers that it is computed from. If two fades fit into the duration one
after the other, it is at every time the lesser of the ramp up from the start and the ramp down to
the end, cut off at zero and one. -/
theorem opacity_trapezoid (time start duration fadeIn fadeOut : Rat) :
    let elapsed := time - start
    let x := opacity time start duration fadeIn fadeOut
    (0 ≤ x ∧ x ≤ 1) ∧ (0 < x → start ≤ time ∧ time < start + duration) ∧
      (0 < fadeIn → 0 < fadeOut → fadeIn + fadeOut ≤ duration →
        x = max 0 (min 1 (min (elapsed / fadeIn) ((duration - elapsed) / fadeOut)))) := by
  intro elapsed x
  have hstage : FadeStage elapsed duration fadeIn fadeOut x :=
    fadeStage_opacity time start duration fadeIn fadeOut
  refine ⟨⟨hstage.nonneg, hstage.le_one⟩, fun hx => ?_, hstage.eq_trapezoid⟩
  obtain ⟨hbegun, hon⟩ := hstage.mem_of_pos hx
  exact ⟨sub_nonneg.mp hbegun, sub_lt_iff_lt_add'.mp hon⟩

/-- Half a second before the end of a fade-out of two seconds the ramp down counts, and a quarter of
the picture is seen. -/
theorem opacity_trapezoid_fading_out :
    opacity (19 / 2 : Rat) 5 5 1 2 = 1 / 4 ∧ (5 : Rat) ≤ 19 / 2 ∧ (19 / 2 : Rat) < 5 + 5 ∧
      (1 / 4 : Rat) =
        max 0 (min 1 (min ((19 / 2 - 5) / 1) ((5 - (19 / 2 - 5)) / 2))) := by
  have hopacity : opacity (19 / 2 : Rat) 5 5 1 2 = 1 / 4 := by
    decide +kernel
  obtain ⟨-, hmem, htrapezoid⟩ := opacity_trapezoid (19 / 2) 5 5 1 2
  rw [hopacity] at hmem htrapezoid
  obtain ⟨hstart, hfinish⟩ := hmem (by norm_num)
  exact ⟨hopacity, hstart, hfinish, htrapezoid (by norm_num) (by norm_num) (by norm_num)⟩

/-- What can be seen of an item is seen while it is on. -/
theorem Item.mem_of_opacityAt_pos {item : Item Rat} {time : Rat} (h : 0 < item.opacityAt time) :
    item.start ≤ time ∧ time < item.finish := by
  have hstage := fadeStage_opacity time item.start item.duration item.fadeIn item.fadeOut
  obtain ⟨hbegun, hon⟩ := hstage.mem_of_pos h
  exact ⟨sub_nonneg.mp hbegun, sub_lt_iff_lt_add'.mp hon⟩

namespace Timeline

theorem later_eq_max (finish latest : Rat) : later finish latest = max finish latest := by
  unfold later
  split
  · next h => exact (max_eq_left h.le).symm
  · next h => exact (max_eq_right (not_lt.mp h)).symm

/-- No item is gone later than the show is over. -/
theorem finish_le_length {timeline : Timeline Rat} {item : Item Rat}
    (h : item ∈ timeline.layers) : item.finish ≤ timeline.length := by
  obtain ⟨layers⟩ := timeline
  induction layers with
  | nil => cases h
  | cons bottom layers ih =>
    show item.finish ≤ later bottom.finish (length ⟨layers⟩)
    rw [later_eq_max]
    obtain rfl | hmem := List.mem_cons.mp h
    · exact le_max_left ..
    · exact (ih hmem).trans (le_max_right ..)

end Timeline

end Slideshow
