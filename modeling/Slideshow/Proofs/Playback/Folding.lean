import Slideshow.Description.Reading
import Slideshow.Playback.Basic
import Slideshow.Proofs.Number.Differences
import Slideshow.Proofs.Number.Operations

/-!
# When folding ends

Folding a time takes the period off as long as the time exceeds it. Over binary64 numbers that ends
if the time has no more than 2 ^ 53 periods, for then every pass makes it smaller. From 2 ^ 54
periods on no pass does, and folding goes on for ever; so it does for an infinite time.

## Main definitions

* `Loop.FoldsTo`: the passes of the loop, without a bound on their number.
* `Loop.WrapsTo`: the loop with the case of no period.

## Main statements

* `Loop.sub_lt`: one pass.
* `Loop.foldsTo_wrap`: where every pass makes progress the loop ends with the folded time.
* `Loop.not_foldsTo`: where none does it has no end.
* `Loop.FoldsTo.wrap_eq`: if the loop ends at all, it ends with the folded time.
* `Playback.tick_wrapsTo`: what that means for a tick.
-/

namespace Slideshow

namespace Loop

section Passes

variable {α : Type} [Scalar α] {period time result : α}

/-- Passes that take `period` off as long as the time exceeds it, and the time when they end. -/
inductive FoldsTo (period : α) : α → α → Prop
  | stay {time : α} : ¬period < time → FoldsTo period time time
  | pass {time result : α} : period < time → FoldsTo period (time - period) result →
      FoldsTo period time result

/-- What folding answers if it does: there is nothing to fold into without a positive period. -/
def WrapsTo (period time result : α) : Prop :=
  if period ≤ 0 then result = 0 else FoldsTo period time result

theorem wrapsTo_iff (h : ¬period ≤ 0) :
    WrapsTo period time result ↔ FoldsTo period time result :=
  iff_of_eq (if_neg h)

theorem wrap_of_le (h : period ≤ 0) : wrap time period = 0 :=
  if_pos h

theorem wrapsTo_iff_of_le (h : period ≤ 0) : WrapsTo period time result ↔ result = 0 :=
  iff_of_eq (if_pos h)

theorem wrapsTo_wrap_of_le (h : period ≤ 0) : WrapsTo period time (wrap time period) :=
  (wrapsTo_iff_of_le h).mpr (wrap_of_le h)

/-- A bound on the passes does no harm if they end within it. -/
theorem foldsTo_fold {passes : Nat} (h : ¬period < fold period passes time) :
    FoldsTo period time (fold period passes time) := by
  induction passes generalizing time with
  | zero => exact .stay h
  | succ passes ih =>
    rw [fold] at h ⊢
    split
    · next hlt =>
      rw [if_pos hlt] at h
      exact .pass hlt (ih h)
    · next hle => exact .stay hle

/-- Passes do not end if each of them leaves something that asks for another one. -/
theorem not_foldsTo_of_invariant {P : α → Prop} (hpass : ∀ t, P t → period < t ∧ P (t - period))
    (h : P time) : ¬FoldsTo period time result := by
  intro hfold
  induction hfold with
  | stay hle => exact hle (hpass _ h).1
  | pass _ _ ih => exact ih (hpass _ h).2

end Passes

section Binary64

open Binary64

variable {period time : Float} {p t : Rat}

/-- Up to 2 ^ 53 periods every pass makes the time smaller. -/
theorem sub_lt (htime : exact time = .ok t) (hperiod : exact period = .ok p) (hpos : 0 < p)
    (hlt : period < time) (h : t ≤ 2 ^ 53 * p) : time - period < time := by
  rw [lt_iff hperiod htime] at hlt
  rw [lt_iff (exact_sub_of_le htime hperiod hpos.le hlt.le) htime]
  exact rounded_sub_lt (rounded_of_exact hperiod) hpos hlt h

/-- As many passes as there are half periods are enough. -/
theorem exact_fold (htime : exact time = .ok t) (hperiod : exact period = .ok p) (hpos : 0 < p)
    (h : t ≤ 2 ^ 53 * p) {passes : Nat} (hpasses : t ≤ p + passes * (p / 2)) :
    ∃ r, exact (fold period passes time) = .ok r ∧ r ≤ p := by
  induction passes generalizing time t with
  | zero => exact ⟨t, htime, by simpa using hpasses⟩
  | succ passes ih =>
    rw [fold]
    by_cases hlt : period < time
    · rw [if_pos hlt]
      rw [lt_iff hperiod htime] at hlt
      -- Rounding gives back half of what a pass takes off at most, so a pass is worth `p / 2`.
      have hsmaller := rounded_sub_lt (rounded_of_exact hperiod) hpos hlt h
      have hprogress := rounded_sub_le (rounded_of_exact htime) hpos hlt hsmaller
      refine ih (exact_sub_of_le htime hperiod hpos.le hlt.le) (by linarith) ?_
      push_cast at hpasses
      linarith
    · rw [if_neg hlt]
      rw [lt_iff hperiod htime] at hlt
      exact ⟨t, htime, not_lt.mp hlt⟩

theorem passBound_eq (htime : exact time = .ok t) (hperiod : exact period = .ok p) :
    passBound time period = 2 * (t / p).ceil.toNat + 2 := by
  have htime' : Scalar.exact time = .ok t := htime
  have hperiod' : Scalar.exact period = .ok p := hperiod
  rw [passBound, htime', hperiod']

theorem le_zero_iff (hperiod : exact period = .ok p) : period ≤ (Scalar.ofInt 0 : Float) ↔ p ≤ 0 :=
  le_iff hperiod (by decide +kernel)

theorem le_passBound_half (htime : exact time = .ok t) (hperiod : exact period = .ok p)
    (hpos : 0 < p) : t ≤ p + passBound time period * (p / 2) := by
  have hceil : t / p ≤ ((t / p).ceil.toNat : Int) :=
    Rat.le_ceil.trans (by exact_mod_cast Int.self_le_toNat _)
  rw [div_le_iff₀ hpos] at hceil
  rw [passBound_eq htime hperiod]
  push_cast at hceil ⊢
  linarith

theorem wrap_eq_fold (hperiod : exact period = .ok p) (hpos : 0 < p) :
    wrap time period = fold period (passBound time period) time :=
  if_neg (mt (le_zero_iff hperiod).mp (not_le.mpr hpos))

/-- Where every pass makes progress the loop ends, and with the time that `wrap` answers. -/
theorem foldsTo_wrap (htime : exact time = .ok t) (hperiod : exact period = .ok p) (hpos : 0 < p)
    (h : t ≤ 2 ^ 53 * p) : FoldsTo period time (wrap time period) := by
  obtain ⟨r, hr, hle⟩ :=
    exact_fold htime hperiod hpos h (le_passBound_half htime hperiod hpos)
  rw [wrap_eq_fold hperiod hpos]
  exact foldsTo_fold (mt (lt_iff hperiod hr).mp (not_lt.mpr hle))

/-- The passes have no end once the period is lost in rounding. -/
theorem not_foldsTo_of_rounded_eq (htime : exact time = .ok t) (hperiod : exact period = .ok p)
    (hpos : 0 < p) (hlt : p < t) (h : rounded (t - p) = t) (result : Float) :
    ¬FoldsTo period time result := by
  -- The invariant is the time itself: `t - p` is rounded to `t` again.
  refine not_foldsTo_of_invariant (P := fun time => exact time = .ok t) (fun time htime => ?_) htime
  refine ⟨(lt_iff hperiod htime).mpr hlt, ?_⟩
  rw [exact_sub_of_le htime hperiod hpos.le hlt.le, h]

/-- From 2 ^ 54 periods on the passes have no end. -/
theorem not_foldsTo (htime : exact time = .ok t) (hperiod : exact period = .ok p) (hpos : 0 < p)
    (h : 2 ^ 54 * p ≤ t) (result : Float) : ¬FoldsTo period time result :=
  not_foldsTo_of_rounded_eq htime hperiod hpos (by linarith)
    (rounded_sub_eq (rounded_of_exact htime) hpos h) result

/-- Passes that end are no more than are allowed for. -/
theorem FoldsTo.fold_eq {result : Float} (h : FoldsTo period time result)
    (htime : exact time = .ok t) (hperiod : exact period = .ok p) (hpos : 0 < p) {passes : Nat}
    (hpasses : t ≤ p + passes * (p / 2)) : fold period passes time = result := by
  induction h generalizing t passes with
  | stay hle =>
    cases passes with
    | zero => rfl
    | succ passes => exact if_neg hle
  | @pass time result hlt hfold ih =>
    have hlt' := (lt_iff hperiod htime).mp hlt
    have hle : rounded (t - p) ≤ t :=
      (rounded_mono (by linarith)).trans_eq (rounded_of_exact htime)
    -- A pass without progress would be followed by another one for ever.
    have hprogress : rounded (t - p) < t := hle.lt_of_ne fun heq =>
      not_foldsTo_of_rounded_eq htime hperiod hpos hlt' heq result (.pass hlt hfold)
    have hstep := rounded_sub_le (rounded_of_exact htime) hpos hlt' hprogress
    cases passes with
    | zero =>
      rw [Nat.cast_zero, zero_mul, add_zero] at hpasses
      exact absurd hlt' (not_lt.mpr hpasses)
    | succ passes =>
      rw [fold, if_pos hlt]
      refine ih (exact_sub_of_le htime hperiod hpos.le hlt'.le) ?_
      push_cast at hpasses
      linarith

/-- If the loop ends at all, it ends with the time that `wrap` answers. -/
theorem FoldsTo.wrap_eq {result : Float} (h : FoldsTo period time result)
    (htime : exact time = .ok t) (hperiod : exact period = .ok p) (hpos : 0 < p) :
    wrap time period = result := by
  rw [wrap_eq_fold hperiod hpos]
  exact h.fold_eq htime hperiod hpos (le_passBound_half htime hperiod hpos)

/-- An infinite time is never folded. -/
theorem not_foldsTo_of_infinite (htime : exact time = .error .positiveInfinity)
    (hperiod : exact period = .ok p) (result : Float) : ¬FoldsTo period time result :=
  not_foldsTo_of_invariant (P := fun time => exact time = .error .positiveInfinity)
    (fun _ htime => ⟨lt_of_infinite hperiod htime, exact_sub_of_infinite htime hperiod⟩) htime

end Binary64

end Loop

namespace Playback

open Binary64

/-- A tick of a show that has begun gets its time by folding. That ends if the show has no length,
or if the time since the start is no more than 2 ^ 53 shows: then every pass makes the time smaller.
It does not end if that time is 2 ^ 54 shows or more. -/
theorem tick_wrapsTo {p : Playback Float} {now : Float} {length : Rat}
    (hstarted : p.clock.started = true) (hlength : exact p.timeline.length = .ok length) :
    let elapsed := now - p.clock.frameStart
    let time := (p.tick now).2.clock.frameTime
    (length ≤ 0 → Loop.WrapsTo p.timeline.length elapsed time) ∧
      (∀ t, 0 < length → exact elapsed = .ok t → t ≤ 2 ^ 53 * length →
        Loop.WrapsTo p.timeline.length elapsed time) ∧
      (∀ passing t, 0 < length → exact passing = .ok t → t ≤ 2 ^ 53 * length →
        p.timeline.length < passing → passing - p.timeline.length < passing) ∧
      (∀ t, 0 < length → exact elapsed = .ok t → 2 ^ 54 * length ≤ t →
        ∀ result, ¬Loop.WrapsTo p.timeline.length elapsed result) ∧
      (0 < length → exact elapsed = .error .positiveInfinity →
        ∀ result, ¬Loop.WrapsTo p.timeline.length elapsed result) := by
  intro elapsed time
  have htime : time = Loop.wrap elapsed p.timeline.length := by
    show (p.tick now).2.clock.frameTime = _
    rw [tick, if_pos hstarted]
  have hwraps (hpos : 0 < length) (result : Float) :
      Loop.WrapsTo p.timeline.length elapsed result ↔
        Loop.FoldsTo p.timeline.length elapsed result :=
    Loop.wrapsTo_iff (mt (Loop.le_zero_iff hlength).mp (not_le.mpr hpos))
  refine ⟨?flat, ?short, ?pass, ?long, ?infinite⟩
  case flat =>
    intro h
    rw [htime]
    exact Loop.wrapsTo_wrap_of_le ((Loop.le_zero_iff hlength).mpr h)
  case short =>
    intro t hpos hexact h
    rw [hwraps hpos, htime]
    exact Loop.foldsTo_wrap hexact hlength hpos h
  case pass =>
    intro passing t hpos hexact h hlt
    exact Loop.sub_lt hexact hlength hpos hlt h
  case long =>
    intro t hpos hexact h result
    rw [hwraps hpos]
    exact Loop.not_foldsTo hexact hlength hpos h result
  case infinite =>
    intro hpos hexact result
    rw [hwraps hpos]
    exact Loop.not_foldsTo_of_infinite hexact hlength result

/-- The show of a description, begun at zero. -/
def begunAtZero (dialect : Dialect) (text : String) : Playback Float :=
  ((ofTimeline (Reading.ofText dialect text : Reading Float).draft.timeline).start 0).2

/-- Twelve seconds into a show of five. -/
theorem tick_wrapsTo_twelve :
    let p := begunAtZero { strictNewlines := false } "screen = 1, 1\nslide \"a\" 3\n"
    p.clock.started = true ∧ exact p.timeline.length = .ok 5 ∧
      exact (p.tick 12).2.clock.frameTime = .ok 2 ∧
      Loop.WrapsTo p.timeline.length (12 - p.clock.frameStart) (p.tick 12).2.clock.frameTime := by
  intro p
  have hlength : exact p.timeline.length = .ok 5 := by decide +kernel
  have helapsed : exact (12 - p.clock.frameStart) = .ok 12 := by decide +kernel
  refine ⟨rfl, hlength, by decide +kernel, ?_⟩
  exact (tick_wrapsTo rfl hlength).2.1 12 (by norm_num) helapsed (by norm_num)

/-- After 10 ^ 17 seconds of the same show the first pass leaves the time as it is, and no time is
ever found. -/
theorem not_wrapsTo_of_long_run :
    let dialect : Dialect := { strictNewlines := false }
    let text := "screen = 1, 1\nslide \"a\" 3\n"
    let p := begunAtZero dialect text
    let now : Float := Scalar.ofInt (10 ^ 17)
    let elapsed := now - p.clock.frameStart
    (Reading.ofText dialect text : Reading Float).failure = none ∧
      p.clock.started = true ∧ exact p.timeline.length = .ok 5 ∧
      exact p.clock.frameStart = .ok 0 ∧ exact now = .ok (10 ^ 17) ∧
      p.timeline.length < elapsed ∧ ¬elapsed - p.timeline.length < elapsed ∧
      ∀ result, ¬Loop.WrapsTo p.timeline.length elapsed result := by
  intro dialect text p now elapsed
  have hlength : exact p.timeline.length = .ok 5 := by decide +kernel
  have helapsed : exact elapsed = .ok (10 ^ 17) := by decide +kernel
  refine ⟨by decide +kernel, rfl, hlength, by decide +kernel, by decide +kernel, by decide +kernel,
    by decide +kernel, fun result => ?_⟩
  rw [Loop.wrapsTo_iff (mt (Loop.le_zero_iff hlength).mp (by norm_num))]
  exact Loop.not_foldsTo helapsed hlength (by norm_num) (by norm_num) result

end Playback

end Slideshow
