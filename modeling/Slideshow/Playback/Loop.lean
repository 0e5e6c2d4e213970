import Slideshow.Number.Scalar

/-!
# The loop

A show starts again when it is over, so the time that has passed is folded into one loop: whole
loops are taken off it one by one. The end of a loop still belongs to it.

## Main definitions

* `Loop.fold`: takes the period off until the time does not exceed it.
* `Loop.passBound`: how often that can be needed.
* `Loop.wrap`: the time within the loop.

## Design notes

Taking the period off again and again is not the same as one division, because each difference is
rounded. The number of passes is bounded by the exact quotient. A rounded difference takes off two
thirds of the period at least, or nothing at all; so twice the quotient leaves room enough, and
where nothing is taken off the time stays as it is however many passes there are.
-/

namespace Slideshow.Loop

variable {α : Type} [Scalar α]

/-- Takes `period` off `time` as long as it exceeds `period`, at most `passes` times. -/
def fold (period : α) : Nat → α → α
  | 0, time => time
  | passes + 1, time => if period < time then fold period passes (time - period) else time

/-- How many passes suffice to fold `time`. An infinite time cannot be folded. -/
def passBound (time period : α) : Nat :=
  match Scalar.exact time, Scalar.exact period with
  | .ok t, .ok p => 2 * (t / p).ceil.toNat + 2
  | _, _ => 0

/-- The time within a loop of length `period`. Without a positive length there is no loop, and all
time is its beginning. -/
def wrap (time period : α) : α :=
  if period ≤ 0 then 0 else fold period (passBound time period) time

end Slideshow.Loop
