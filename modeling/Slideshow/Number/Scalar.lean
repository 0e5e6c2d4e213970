import Slideshow.Number.Rounding

/-!
# Scalars

Times, lengths and opacities are scalars. A show is played with binary64 numbers; its laws are
laws of exact numbers. `Scalar` is what both have in common, so that a reader, a clock or a fade is
written once and means the same over either.

## Main definitions

* `NonFinite`: the values of a scalar that no rational number stands for.
* `Scalar`: the operations, with the exact value and the sign of a scalar.
* `Scalar.truncate`, `Scalar.nearest`: conversion to an integer, which only a finite value has.

## Design notes

`Scalar.exact` is the only way from a scalar to the rationals. What a text or a pixel shows of a
scalar is computed from that value, never by further scalar arithmetic.
-/

namespace Slideshow

/-- A value that is no rational number. -/
inductive NonFinite where
  | positiveInfinity
  | negativeInfinity
  | notANumber
  deriving DecidableEq, Repr

def NonFinite.message : NonFinite → String
  | .notANumber => "cannot convert float NaN to integer"
  | _ => "cannot convert float infinity to integer"

/-- Numbers that a show can be timed and measured with. -/
class Scalar (α : Type) extends Add α, Sub α, Mul α, Div α, Neg α, LT α, LE α where
  /-- The scalar nearest to an integer. -/
  ofInt : Int → α
  /-- The scalar nearest to one tenth. -/
  tenth : α
  /-- Whether a minus sign is written before the number; a zero may carry one. -/
  signed : α → Bool
  /-- The rational number that the scalar stands for. -/
  exact : α → Except NonFinite Rat
  decidableLT : DecidableLT α
  decidableLE : DecidableLE α

namespace Scalar

variable {α : Type} [Scalar α]

instance : DecidableLT α := Scalar.decidableLT

instance : DecidableLE α := Scalar.decidableLE

/-- Numerals stand for integers. -/
instance (priority := low) instOfNat (n : Nat) : OfNat α n := ⟨Scalar.ofInt n⟩

/-- Whether `x` is a zero of either sign. -/
def isZero (x : α) : Bool :=
  decide (x ≤ 0) && decide ((0 : α) ≤ x)

/-- Whether `x` lies below positive infinity. -/
def belowInfinity (x : α) : Bool :=
  match exact x with
  | .ok _ => true
  | .error kind => kind == .negativeInfinity

/-- The integer part of a finite scalar, toward zero. -/
def truncate (x : α) : Except NonFinite Int :=
  (exact x).map Rounding.truncate

/-- The integer nearest to a finite scalar, a tie going to the even neighbour. -/
def nearest (x : α) : Except NonFinite Int :=
  (exact x).map Rounding.nearest

end Scalar

instance : Scalar Rat where
  ofInt n := n
  tenth := 1 / 10
  signed x := decide (x < 0)
  exact := .ok
  decidableLT := inferInstance
  decidableLE := inferInstance

end Slideshow
