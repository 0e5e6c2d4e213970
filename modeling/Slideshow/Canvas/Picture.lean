import Slideshow.Canvas.Texture

/-!
# The picture of a frame

The items that show are painted over the background one after the other, each with its opacity.

## Main definitions

* `Canvas`: a surface that is being painted, with the number of items painted.
* `Canvas.drawItem`, `Canvas.draw`: one item, and all items of a frame.

## Design notes

Drawing uses and fills the texture cache, and fails at a place or an opacity that is not finite.
What was loaded before a failure stays loaded.
-/

namespace Slideshow

/-- A surface with the number of items painted on it. -/
structure Canvas where
  surface : Surface
  drawn : Nat

namespace Canvas

variable {α π : Type} [Scalar α]

/-- Drawing: a computation on the texture cache that can meet a number that is not finite. -/
abbrev Draw (π β : Type) := EStateM NonFinite (TextureCache π) β

/-- Lets a conversion fail a drawing. -/
def convert {β : Type} : Except NonFinite β → Draw π β
  | .ok b => pure b
  | .error kind => throw kind

/-- An opacity in steps of 255. -/
def levelOf (opacity : α) : Except NonFinite Nat :=
  (Scalar.nearest (opacity * 255)).map fun n => min n.toNat 255

variable [Pictorial π]

/-- The surface with a copy painted on a rectangle. -/
def stamp (surface : Surface) (r : Rect) (copy : ScaledCopy π) : Surface :=
  { surface with pixel := Pictorial.paint surface r copy.level copy.texture }

/-- Paints the copy of an item for its rectangle, tinted with its opacity. -/
def drawCopy (gallery : Gallery π) (canvas : Canvas) (source : String) (r : Rect) (opacity : α) :
    Draw π Canvas := do
  let key : CopyKey := ⟨source, r.width, r.height⟩
  modify (·.scale gallery key)
  let level ← convert (levelOf opacity)
  modify (·.setLevel key level)
  let cache ← get
  return ⟨((cache.copies.lookup key).map (stamp canvas.surface r)).getD canvas.surface,
    canvas.drawn + 1⟩

def drawItem (gallery : Gallery π) (canvas : Canvas) (entry : Item α × α) : Draw π Canvas := do
  let size := canvas.surface.size
  let r ← convert (Rect.ofItem entry.1 size.width size.height)
  if r.isEmpty then return canvas
  else drawCopy gallery canvas entry.1.source r entry.2

/-- Paints items with their opacities over a background, the first one at the bottom. -/
def draw (gallery : Gallery π) (size : WindowSize) (background : Colour)
    (entries : List (Item α × α)) : Draw π Canvas :=
  entries.foldlM (drawItem gallery) ⟨.filled size background, 0⟩

end Canvas

end Slideshow
