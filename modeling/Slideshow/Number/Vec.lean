import Slideshow.Number.Scalar

/-!
# Pairs of scalars

A place or an extent on the canvas.

## Main definitions

* `Vec`: a horizontal and a vertical scalar.
* `Vec.fractionOf`: a place in units of another one.
-/

namespace Slideshow

/-- A horizontal and a vertical scalar. -/
structure Vec (α : Type) where
  x : α
  y : α
  deriving DecidableEq, Repr

variable {α : Type} [Scalar α]

/-- `v` with `unit` as the unit on either axis. -/
def Vec.fractionOf (v unit : Vec α) : Vec α :=
  ⟨v.x / unit.x, v.y / unit.y⟩

end Slideshow
