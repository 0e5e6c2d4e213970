import Slideshow.Canvas.Rect
import Slideshow.Proofs.Number.Rounding

/-!
# Edges of rectangles

Position and size of an item are rounded each on its own, and the height counts twice, since pixels
are counted from the top. Still no edge lies further than a pixel from where it belongs, and items
side by side are not further apart.

## Main definitions

* `Rect.Follows`: how far the edges of a rectangle lie from those of an item.
* `Rect.RightOf`, `Rect.Above`: two items with an edge in common.

## Main statements

* `Rect.abs_overlap_le`: three roundings make a difference of one pixel at most.
* `Rect.edges_ofItem`: the rectangle of an item follows it, and rectangles of items with an edge in
  common are at most one pixel apart.
-/

namespace Slideshow.Rect

open Rounding

/-- The rectangle lies where the item does on a window, to half a pixel on the left and at the
bottom and to a pixel on the right and at the top. Its extent is right to half a pixel. -/
structure Follows (r : Rect) (item : Item Rat) (windowWidth windowHeight : Int) : Prop where
  left : |(r.x : Rat) - item.position.x * windowWidth| ≤ 1 / 2
  width : |(r.width : Rat) - item.size.x * windowWidth| ≤ 1 / 2
  height : |(r.height : Rat) - item.size.y * windowHeight| ≤ 1 / 2
  bottom : |((r.y + r.height : Int) : Rat) -
    (windowHeight - item.position.y * windowHeight)| ≤ 1 / 2
  right : |((r.x + r.width : Int) : Rat) - (item.position.x + item.size.x) * windowWidth| ≤ 1
  top : |(r.y : Rat) - (windowHeight - (item.position.y + item.size.y) * windowHeight)| ≤ 1

/-- The right edge of `item` is the left edge of `next`. -/
def RightOf (next item : Item Rat) : Prop :=
  next.position.x = item.position.x + item.size.x

/-- The upper edge of `item` is the lower edge of `next`. -/
def Above (next item : Item Rat) : Prop :=
  next.position.y = item.position.y + item.size.y

variable {item next : Item Rat} {windowWidth windowHeight : Int} {r r' : Rect}

/-- An exact item has a rectangle on every window. -/
theorem ofItem_eq (item : Item Rat) (windowWidth windowHeight : Int) :
    ofItem item windowWidth windowHeight =
      .ok ⟨nearest (item.position.x * windowWidth),
        windowHeight - nearest (item.position.y * windowHeight) -
          nearest (item.size.y * windowHeight),
        nearest (item.size.x * windowWidth), nearest (item.size.y * windowHeight)⟩ :=
  rfl

theorem abs_nearest_sub_le (x : Rat) : |(nearest x : Rat) - x| ≤ 1 / 2 := by
  rw [abs_sub_comm]
  exact (near_nearest x).abs_sub_le

/-- The error of two rounded lengths is up to twice as large. -/
theorem abs_nearest_add_nearest_sub_le (x y : Rat) :
    |((nearest x + nearest y : Int) : Rat) - (x + y)| ≤ 1 := by
  have hx := abs_le.mp (abs_nearest_sub_le x)
  have hy := abs_le.mp (abs_nearest_sub_le y)
  rw [abs_le]
  push_cast
  constructor <;> linarith

/-- Two rounded lengths and their rounded sum differ by one and a half at most, and so, being
integers, by one. -/
theorem abs_overlap_le (x y : Rat) : |nearest x + nearest y - nearest (x + y)| ≤ 1 := by
  have hparts := abs_le.mp (abs_nearest_add_nearest_sub_le x y)
  have hsum := abs_le.mp (abs_nearest_sub_le (x + y))
  have hhigh : ((nearest x + nearest y - nearest (x + y) : Int) : Rat) < (2 : Int) := by
    push_cast at hparts ⊢
    linarith
  have hlow : ((-2 : Int) : Rat) < (nearest x + nearest y - nearest (x + y) : Int) := by
    push_cast at hparts ⊢
    linarith
  rw [Int.cast_lt] at hhigh hlow
  rw [abs_le]
  omega

theorem follows_ofItem (h : ofItem item windowWidth windowHeight = .ok r) :
    r.Follows item windowWidth windowHeight := by
  rw [ofItem_eq] at h
  cases h
  have hbottom := abs_nearest_sub_le (item.position.y * windowHeight)
  have htop := abs_nearest_add_nearest_sub_le (item.position.y * windowHeight)
    (item.size.y * windowHeight)
  refine ⟨abs_nearest_sub_le _, abs_nearest_sub_le _, abs_nearest_sub_le _, ?bottom, ?right, ?top⟩
  case right =>
    rw [add_mul]
    exact abs_nearest_add_nearest_sub_le _ _
  -- Seen from the top, the lengths that are rounded count backwards.
  case bottom =>
    rw [abs_sub_comm] at hbottom
    convert hbottom using 2
    push_cast
    ring
  case top =>
    rw [abs_sub_comm] at htop
    convert htop using 2
    push_cast
    ring

/-- Edges that are one on the canvas are at most a pixel apart. -/
theorem abs_gap_le (h : ofItem item windowWidth windowHeight = .ok r)
    (h' : ofItem next windowWidth windowHeight = .ok r') :
    (RightOf next item → |r.x + r.width - r'.x| ≤ 1) ∧
      (Above next item → |r.y - (r'.y + r'.height)| ≤ 1) := by
  rw [ofItem_eq] at h h'
  cases h
  cases h'
  dsimp only
  constructor
  · intro hedge
    rw [hedge, add_mul]
    exact abs_overlap_le _ _
  · intro hedge
    have hgap := abs_overlap_le (item.position.y * windowHeight) (item.size.y * windowHeight)
    rw [hedge, add_mul]
    rw [abs_le] at hgap ⊢
    omega

/-- Every item has a rectangle on every window, whatever their sizes and signs. Its left and lower
edge lie at most half a pixel from their exact places, its width and height are right to half a
pixel, and its right and upper edge lie at most a pixel from their places. If two items have an edge
in common, then their rectangles leave or share at most one pixel there. -/
theorem edges_ofItem (item : Item Rat) (windowWidth windowHeight : Int) :
    ∃ r, ofItem item windowWidth windowHeight = .ok r ∧ r.Follows item windowWidth windowHeight ∧
      ∀ next r', ofItem next windowWidth windowHeight = .ok r' →
        (RightOf next item → |r.x + r.width - r'.x| ≤ 1) ∧
        (Above next item → |r.y - (r'.y + r'.height)| ≤ 1) := by
  have hrect := ofItem_eq item windowWidth windowHeight
  exact ⟨_, hrect, follows_ofItem hrect, fun _ _ hnext => abs_gap_le hrect hnext⟩

/-- On a window of three by three pixels an item that begins half a pixel in and is one pixel wide
starts at the even neighbour, and so does the one beyond its corner, a pixel too far away. -/
theorem edges_ofItem_corner :
    let item : Item Rat := ⟨"a", ⟨1 / 6, 1 / 6⟩, ⟨1 / 3, 1 / 3⟩, 0, 5, 1, 1⟩
    let next : Item Rat := ⟨"b", ⟨1 / 2, 1 / 2⟩, ⟨1 / 3, 1 / 3⟩, 0, 5, 1, 1⟩
    ofItem item 3 3 = .ok ⟨0, 2, 1, 1⟩ ∧ ofItem next 3 3 = .ok ⟨2, 0, 1, 1⟩ ∧
      RightOf next item ∧ Above next item ∧
      |(0 + 1 - 2 : Int)| ≤ 1 ∧ |(2 - (0 + 1) : Int)| ≤ 1 := by
  intro item next
  have hitem : ofItem item 3 3 = .ok ⟨0, 2, 1, 1⟩ := by decide +kernel
  have hnext : ofItem next 3 3 = .ok ⟨2, 0, 1, 1⟩ := by decide +kernel
  have hright : RightOf next item := by norm_num [RightOf, item, next]
  have habove : Above next item := by norm_num [Above, item, next]
  obtain ⟨r, hr, -, hgap⟩ := edges_ofItem item 3 3
  cases hr.symm.trans hitem
  obtain ⟨hcolumn, hrow⟩ := hgap next _ hnext
  exact ⟨hitem, hnext, hright, habove, hcolumn hright, hrow habove⟩

end Slideshow.Rect
