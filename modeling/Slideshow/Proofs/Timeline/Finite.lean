import Slideshow.Proofs.Number.Bounds
import Slideshow.Proofs.Number.Quotients
import Slideshow.Timeline.Basic

/-!
# Items with finite schedules

A schedule whose numbers are finite, the end included, makes sense at every time that a clock can
show: the opacity is a number from zero to one, whatever overflows on the way to it.

## Main definitions

* `Binary64.IsFinite`: a number that is neither infinite nor undefined.
* `Item.Timed`: an item whose schedule is finite.

## Main statements

* `Item.atMost_opacityAt`: the opacity is a number from zero to one.
* `Timeline.isFinite_length`: the length of a show is finite.
* `Item.finish_sub_ne_infinite`: behind the beginning no time that is left overflows.
-/

namespace Slideshow

open Binary64

namespace Binary64

variable {x y : Rat} {a b : Float}

def IsFinite (a : Float) : Prop :=
  ∃ x, exact a = .ok x

instance (a : Float) : Decidable (IsFinite a) :=
  match h : exact a with
  | .ok x => isTrue ⟨x, h⟩
  | .error _ => isFalse fun ⟨_, hx⟩ => nomatch hx.symm.trans h

theorem IsFinite.ne_infinite (h : IsFinite a) : exact a ≠ .error .positiveInfinity := by
  obtain ⟨x, hx⟩ := h
  rw [hx]
  exact nofun

theorem exact_zero : exact (Scalar.ofInt 0) = .ok 0 := by
  decide +kernel

theorem atMost_zero (h : 0 ≤ x) : AtMost (Scalar.ofInt 0) x :=
  ⟨0, exact_zero, le_rfl, h⟩

theorem atMost_one : AtMost (Scalar.ofInt 1) 1 :=
  ⟨1, by decide +kernel, zero_le_one, le_rfl⟩

/-- A share of a positive number is one at most. -/
theorem atMost_div (ha : exact a = .ok x) (hb : exact b = .ok y) (hx : 0 ≤ x) (hlt : x < y) :
    AtMost (a / b) 1 := by
  have hy : 0 < y := hx.trans_lt hlt
  have hone : rounded 1 ≤ 1 := by simpa using (rounded_pow 0).le
  exact atMost_of_settled (exact_div ha hb hy.ne') (div_nonneg hx hy.le)
    ((div_le_one hy).mpr hlt.le) hone one_lt_limit

end Binary64

namespace Item

variable {item : Item Float} {time : Float}

/-- An item whose schedule is given in finite numbers, and whose end is one. -/
structure Timed (item : Item Float) : Prop where
  start : IsFinite item.start
  duration : IsFinite item.duration
  fadeIn : IsFinite item.fadeIn
  fadeOut : IsFinite item.fadeOut
  finish : IsFinite item.finish

theorem timed_iff {item : Item Float} : item.Timed ↔ IsFinite item.start ∧ IsFinite item.duration ∧
    IsFinite item.fadeIn ∧ IsFinite item.fadeOut ∧ IsFinite item.finish :=
  ⟨fun ⟨hstart, hduration, hfadeIn, hfadeOut, hfinish⟩ =>
      ⟨hstart, hduration, hfadeIn, hfadeOut, hfinish⟩,
    fun ⟨hstart, hduration, hfadeIn, hfadeOut, hfinish⟩ =>
      ⟨hstart, hduration, hfadeIn, hfadeOut, hfinish⟩⟩

instance (item : Item Float) : Decidable item.Timed :=
  decidable_of_iff _ timed_iff.symm

/-- Before its start nothing is seen of an item. -/
theorem opacityAt_of_lt (h : time < item.start) : item.opacityAt time = Scalar.ofInt 0 :=
  if_pos h

/-- The opacity of an item at a finite time is a number from zero to one. The time since its start
may be too large for one, but then the item is gone. -/
theorem atMost_opacityAt (hitem : item.Timed) (htime : IsFinite time) :
    AtMost (item.opacityAt time) 1 := by
  obtain ⟨t, ht⟩ := htime
  obtain ⟨s, hs⟩ := hitem.start
  obtain ⟨d, hd⟩ := hitem.duration
  obtain ⟨i, hi⟩ := hitem.fadeIn
  obtain ⟨o, ho⟩ := hitem.fadeOut
  rw [opacityAt, opacity]
  split
  · exact atMost_zero zero_le_one
  · next hbegun =>
    rw [lt_iff ht hs, not_lt] at hbegun
    have hsub := exact_sub ht hs
    generalize time - item.start = elapsed at hsub
    dsimp only
    split
    · exact atMost_zero zero_le_one
    · next hon =>
      have helapsed : exact elapsed = .ok (rounded (t - s)) := by
        rw [settled] at hsub
        split at hsub
        · exact hsub
        · next hlarge =>
          have hpos : 0 < t - s := (sub_nonneg.mpr hbegun).lt_of_ne fun h => by
            rw [← h, rounded_zero] at hlarge
            norm_num at hlarge
          rw [if_pos hpos] at hsub
          exact absurd (le_of_infinite hd hsub) hon
      have hnonneg : 0 ≤ rounded (t - s) := rounded_nonneg (sub_nonneg.mpr hbegun)
      rw [le_iff hd helapsed, not_le] at hon
      have hremaining := exact_sub_of_le hd helapsed hnonneg hon.le
      split
      · next hfade => exact atMost_div helapsed hi hnonneg ((lt_iff helapsed hi).mp hfade.2)
      · split
        · next hfade =>
          exact atMost_div hremaining ho (rounded_nonneg (sub_nonneg.mpr hon.le))
            ((lt_iff hremaining ho).mp hfade.2)
        · exact atMost_one

/-- Behind the beginning of a show the time that an item has left does not overflow. -/
theorem finish_sub_ne_infinite {f t : Rat} (hfinish : exact item.finish = .ok f)
    (htime : exact time = .ok t) (h : 0 ≤ t) :
    exact (item.finish - time) ≠ .error .positiveInfinity := by
  obtain hle | hlt := le_or_gt t f
  · rw [exact_sub_of_le hfinish htime h hle]
    exact nofun
  · rw [exact_sub hfinish htime, settled, if_neg (not_lt.mpr (sub_nonpos.mpr hlt.le))]
    split <;> simp

end Item

namespace Timeline

theorem isFinite_later {finish latest : Float} (hfinish : IsFinite finish)
    (hlatest : IsFinite latest) : IsFinite (later finish latest) := by
  rw [later]
  split
  · exact hfinish
  · exact hlatest

/-- A show of items that end is finite. -/
theorem isFinite_length {timeline : Timeline Float} (h : ∀ item ∈ timeline.layers, item.Timed) :
    IsFinite timeline.length := by
  obtain ⟨layers⟩ := timeline
  induction layers with
  | nil => exact ⟨0, exact_zero⟩
  | cons item layers ih =>
    obtain ⟨hitem, hlayers⟩ := List.forall_mem_cons.mp h
    exact isFinite_later hitem.finish (ih hlayers)

end Timeline

end Slideshow
