import Slideshow.Number.Scalar

/-!
# Binary64 numbers

A binary64 number is a sign, a mantissa and a power of two, an infinity, or no number at all. This
module reads that off a `Float` and so gives `Float` the exact values that `Scalar` asks for.

## Main definitions

* `Binary64.dyadic`: the rational number `m * 2 ^ e`.
* `Binary64.exact`, `Binary64.signed`: value and sign of a `Float`.
* `Binary64.roundPlaces`: the binary64 number nearest to a decimal of few places.
-/

namespace Slideshow

namespace Binary64

/-- The rational number `m * 2 ^ e`. -/
def dyadic (m : Int) : Int → Rat
  | .ofNat e => m * 2 ^ e
  | .negSucc e => mkRat m (Nat.pow 2 (e + 1))

/-- The rational number that `x` stands for. -/
def exact (x : Float) : Except NonFinite Rat :=
  match x.toModel.unpack with
  | .zero _ => .ok 0
  | .finite sign m e _ => .ok (dyadic (sign.apply m) e)
  | .infinity .positive => .error .positiveInfinity
  | .infinity .negative => .error .negativeInfinity
  | .notANumber => .error .notANumber

/-- Whether `x` carries a minus sign. A value that is no number carries none. -/
def signed (x : Float) : Bool :=
  match x.toModel.unpack with
  | .zero sign | .finite sign _ _ _ | .infinity sign => sign == .negative
  | .notANumber => false

/-- The binary64 number nearest to `x` rounded to `places` decimals, a tie going to the even digit.
The sign stays, also where nothing else is left of `x`. -/
def roundPlaces (places : Nat) (x : Float) : Float :=
  match exact x with
  | .error _ => x
  | .ok r =>
    let units := (Rounding.nearest (r * 10 ^ places)).natAbs
    let rounded := Float.ofScientific units true places
    if signed x then -rounded else rounded

end Binary64

instance : Scalar Float where
  ofInt := Float.ofInt
  tenth := 0.1
  signed := Binary64.signed
  exact := Binary64.exact
  decidableLT := inferInstance
  decidableLE := inferInstance

end Slideshow
