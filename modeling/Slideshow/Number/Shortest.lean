import Slideshow.Number.Binary64
import Slideshow.Number.Decimal

/-!
# Shortest decimals

The text of a binary64 number where it has to be read back: the fewest digits that no other
binary64 number is nearer to, and of those digits the nearest to the number itself.

## Main definitions

* `Shortest.Interval`: the reals that round to one binary64 number.
* `Shortest.decimal`: the shortest decimal in an interval.
* `Shortest.text`: a number in that form, `0.1`, `1e+16`, `-0.0`.

## Design notes

The search walks the decimal grids from coarse to fine. If a grid has a point in the interval,
then one of the two points beside the number is in it, so two tests a grid are enough.
-/

namespace Slideshow.Shortest

/-- The reals around `value` that round to it. The ends belong to it if its mantissa is even. -/
structure Interval where
  value : Rat
  low : Rat
  high : Rat
  closed : Bool

/-- The interval of the positive number `m * 2 ^ e`. Below a power of two the next number is only
half as far away as above, but for the smallest exponent. -/
def Interval.ofMantissa (m : Nat) (e : Int) : Interval where
  value := Binary64.dyadic m e
  low := Binary64.dyadic (4 * m - (if m = Nat.pow 2 52 ∧ e ≠ -1074 then 1 else 2)) (e - 2)
  high := Binary64.dyadic (4 * m + 2) (e - 2)
  closed := m % 2 == 0

/-- Whether `r` rounds to the number of the interval. -/
def Interval.contains (i : Interval) (r : Rat) : Bool :=
  if i.closed then decide (i.low ≤ r) && decide (r ≤ i.high)
  else decide (i.low < r) && decide (r < i.high)

/-- The point of the grid `n * 10 ^ exponent` in the interval that is nearest to its number. -/
def Interval.onGrid? (i : Interval) (exponent : Int) : Option Nat :=
  let scaled := Decimal.shift i.value (-exponent)
  let below := scaled.floor.toNat
  let inside (n : Nat) := i.contains (Decimal.shift n exponent)
  match inside below, inside (below + 1) with
  | true, true => some (Rounding.nearest scaled).toNat
  | true, false => some below
  | false, true => some (below + 1)
  | false, false => none

/-- The first grid with a point in the interval, at most `count` grids from `exponent` down. -/
def search (i : Interval) : Nat → Int → Decimal
  | 0, exponent => ⟨(Rounding.nearest (Decimal.shift i.value (-exponent))).toNat, exponent⟩
  | count + 1, exponent =>
    match i.onGrid? exponent with
    | some digits => ⟨digits, exponent⟩
    | none => search i count (exponent - 1)

/-- The shortest decimal that rounds to the number of the interval. Seventeen digits always do. -/
def decimal (i : Interval) : Decimal :=
  search i 16 (Decimal.exponentOf i.value)

/-- A decimal with a point in it, as long as its first digit stands for `10 ^ -4` to `10 ^ 15`;
else with a power of ten. -/
def layOut (d : Decimal) : String :=
  let digits := toString d.digits
  let e := d.exponent + digits.length - 1
  if e < -4 ∨ 16 ≤ e then
    match digits.toList with
    | first :: [] => first.toString ++ Decimal.exponentText e
    | first :: more =>
      Decimal.dropZeros (first.toString ++ "." ++ String.ofList more) ++ Decimal.exponentText e
    | [] => ""
  else if d.exponent < 0 then
    Decimal.point d.exponent.natAbs d.digits
  else
    toString (d.digits * Decimal.tenTo d.exponent.toNat) ++ ".0"

/-- The shortest text of a number; a whole number has one zero after the point. -/
def text (x : Float) : String :=
  match x.toModel.unpack with
  | .zero _ => Decimal.withSign (Binary64.signed x) "0.0"
  | .finite _ m e _ =>
    Decimal.withSign (Binary64.signed x) (layOut (decimal (.ofMantissa m e)))
  | .infinity .positive => "inf"
  | .infinity .negative => "-inf"
  | .notANumber => "nan"

end Slideshow.Shortest
