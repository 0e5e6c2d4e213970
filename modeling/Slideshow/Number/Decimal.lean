import Slideshow.Number.Scalar

/-!
# Decimal texts of scalars

How a scalar is written in tables, overlays and log lines. Digits are those of the exact value,
rounded once; a tie goes to the even digit.

## Main definitions

* `Decimal`: digits and the power of ten of the last one.
* `Decimal.exponentOf`: the power of ten of the first digit of a positive number.
* `Decimal.fixed`: a scalar with a fixed number of places, `1.50`.
* `Decimal.general`: a scalar with six significant digits, `1.5` or `1e+06`.
* `Decimal.pad`, `Decimal.padZero`: a text set to the right of a column.
-/

namespace Slideshow

/-- The number `digits * 10 ^ exponent`. -/
structure Decimal where
  digits : Nat
  exponent : Int
  deriving DecidableEq, Repr

namespace Decimal

/-- `text` moved to the right end of a column. A text wider than the column stays as it is. -/
def pad (width : Nat) (text : String) : String :=
  "".pushn ' ' (width - text.length) ++ text

/-- A natural number with zeros in front, so that it has `width` digits at least. -/
def padZero (width n : Nat) : String :=
  let text := toString n
  "".pushn '0' (width - text.length) ++ text

/-- The number that a one with `n` zeros is. -/
def tenTo (n : Nat) : Nat :=
  Nat.pow 10 n

/-- `r * 10 ^ n`, also for a negative `n`. -/
def shift (r : Rat) : Int → Rat
  | .ofNat n => r * 10 ^ n
  | .negSucc n => r / 10 ^ (n + 1)

/-- How many decimal digits `n` has. -/
def digitCount (n : Nat) : Nat :=
  (toString n).length

/-- The `e` with `10 ^ e ≤ r < 10 ^ (e + 1)`, for a positive `r`. -/
def exponentOf (r : Rat) : Int :=
  let num := r.num.natAbs
  if r.den ≤ num then
    (digitCount (num / r.den) : Int) - 1
  else
    let count := digitCount (r.den / num)
    if r.den = num * tenTo (count - 1) then 1 - (count : Int) else -(count : Int)

/-- The texts of the values that have no digits. -/
def nonFinite : NonFinite → String
  | .positiveInfinity => "inf"
  | .negativeInfinity => "-inf"
  | .notANumber => "nan"

/-- A minus sign in front of what has one. -/
def withSign (negative : Bool) (text : String) : String :=
  if negative then "-" ++ text else text

/-- `units / 10 ^ places` with a point before the last `places` digits. -/
def point (places units : Nat) : String :=
  if places = 0 then toString units
  else
    toString (units / tenTo places) ++ "." ++ padZero places (units % tenTo places)

/-- Digits after a point lose the zeros at their end, and the point if nothing follows it. -/
def dropZeros (text : String) : String :=
  if text.contains '.' then
    let kept := text.toList.reverse.dropWhile (· == '0')
    String.ofList (match kept with
      | '.' :: whole => whole.reverse
      | kept => kept.reverse)
  else text

/-- A power of ten with its sign and two digits at least, as in `e+07`. -/
def exponentText (e : Int) : String :=
  "e" ++ (if e < 0 then "-" else "+") ++ padZero 2 e.natAbs

variable {α : Type} [Scalar α]

/-- `x` with `places` digits after the point. The sign stays, also where only zeros are left. -/
def fixed (places : Nat) (x : α) : String :=
  match Scalar.exact x with
  | .error kind => nonFinite kind
  | .ok r =>
    withSign (Scalar.signed x) (point places (Rounding.nearest (shift r places)).natAbs)

/-- `r` rounded to `count` significant digits, for a positive `r`. -/
def significant (count : Nat) (r : Rat) : Decimal :=
  let e := exponentOf r
  let last := e - ((count : Int) - 1)
  let digits := (Rounding.nearest (shift r (-last))).natAbs
  if digits = tenTo count then ⟨tenTo (count - 1), last + 1⟩ else ⟨digits, last⟩

/-- Six significant digits without zeros at the end. Below `0.0001` and from a million on, one
digit stands before the point and a power of ten follows. -/
def general (x : α) : String :=
  match Scalar.exact x with
  | .error kind => nonFinite kind
  | .ok r =>
    let magnitude := if r < 0 then -r else r
    if magnitude = 0 then withSign (Scalar.signed x) "0"
    else
      let d := significant 6 magnitude
      let e := d.exponent + 5
      withSign (Scalar.signed x) <|
        if e < -4 ∨ 6 ≤ e then
          dropZeros (point 5 d.digits) ++ exponentText e
        else
          dropZeros (point (5 - e).toNat d.digits)

end Decimal

end Slideshow
