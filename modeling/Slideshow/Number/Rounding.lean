/-!
# Rounding of exact numbers

The integers near a rational number. Pixels and printed decimals round to the nearest integer and
send a tie to the even neighbour; column and file numbers drop the fraction.

## Main definitions

* `Rounding.truncate`: the integer part, toward zero.
* `Rounding.nearest`: the nearest integer, a tie going to the even one.
-/

namespace Slideshow.Rounding

/-- The integer part of `r`, toward zero. -/
def truncate (r : Rat) : Int :=
  r.num.tdiv r.den

/-- The integer nearest to `num / den`, a tie going to the even neighbour. -/
def nearestQuotient (num : Int) (den : Nat) : Int :=
  let low := num.fdiv den
  let twice := 2 * (num - low * den)
  if twice < den then low
  else if (den : Int) < twice then low + 1
  else if low % 2 = 0 then low
  else low + 1

/-- The integer nearest to `r`, a tie going to the even neighbour. -/
def nearest (r : Rat) : Int :=
  nearestQuotient r.num r.den

end Slideshow.Rounding
