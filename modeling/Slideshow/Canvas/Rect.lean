import Slideshow.Timeline.Item

/-!
# Rectangles of pixels

Where an item lies on a window. An item is placed in fractions of the canvas from the bottom left;
pixels are counted from the top left.

## Main definitions

* `Rect`: a rectangle of pixels.
* `Rect.ofItem`: the rectangle of an item on a window.
* `Rect.contains`: whether a pixel lies in a rectangle.
-/

namespace Slideshow

structure WindowSize where
  width : Nat
  height : Nat
  deriving DecidableEq, Repr

/-- A rectangle of pixels with its upper left corner. A width or height that is not positive makes
it empty. -/
structure Rect where
  x : Int
  y : Int
  width : Int
  height : Int
  deriving DecidableEq, Repr

namespace Rect

variable {α : Type} [Scalar α]

/-- The pixels nearest to a fraction of a length. -/
def pixels (fraction : α) (length : Int) : Except NonFinite Int :=
  Scalar.nearest (fraction * Scalar.ofInt length)

/-- The rectangle of an item on a window of some width and height. Position and size are rounded
each on its own. -/
def ofItem (item : Item α) (windowWidth windowHeight : Int) : Except NonFinite Rect := do
  let width ← pixels item.size.x windowWidth
  let height ← pixels item.size.y windowHeight
  let left ← pixels item.position.x windowWidth
  let bottom ← pixels item.position.y windowHeight
  return ⟨left, windowHeight - bottom - height, width, height⟩

def isEmpty (r : Rect) : Bool :=
  r.width ≤ 0 || r.height ≤ 0

/-- Whether the pixel in column `i` and row `j` lies in the rectangle. -/
def contains (r : Rect) (i j : Int) : Bool :=
  r.x ≤ i && i < r.x + r.width && r.y ≤ j && j < r.y + r.height

end Rect

end Slideshow
