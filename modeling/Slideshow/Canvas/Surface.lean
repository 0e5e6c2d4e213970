import Slideshow.Canvas.Rect
import Slideshow.Text.Hex

/-!
# Surfaces

A surface is a rectangle of coloured pixels that pictures are painted on.

## Main definitions

* `Colour.blend`: a colour laid over another one.
* `Surface.filled`, `Surface.paint`: a surface of one colour, and one with a rectangle painted.
* `Surface.rows`: a surface as text, row by row.

## Design notes

A surface is a function of its pixels, so what it looks like after many strokes is a matter of
unfolding them. Painting outside the surface is not an error; nobody looks there.
-/

namespace Slideshow

/-- A colour by its red, green and blue parts, each below 256. -/
structure Colour where
  red : Nat
  green : Nat
  blue : Nat
  deriving DecidableEq, Repr

namespace Colour

/-- A part of two colours mixed, with `level` of 255 of the upper one. -/
def mix (level upper lower : Nat) : Nat :=
  (upper * level + lower * (255 - level)) / 255

/-- The colour `upper` laid over `lower` with `level` of 255. -/
def blend (level : Nat) (upper lower : Colour) : Colour :=
  ⟨mix level upper.red lower.red, mix level upper.green lower.green,
    mix level upper.blue lower.blue⟩

def text (c : Colour) : String :=
  Hex.padded 2 c.red ++ Hex.padded 2 c.green ++ Hex.padded 2 c.blue

end Colour

/-- Coloured pixels by column and row, counted from the upper left corner. -/
structure Surface where
  size : WindowSize
  pixel : Int → Int → Colour

namespace Surface

def filled (size : WindowSize) (colour : Colour) : Surface :=
  ⟨size, fun _ _ => colour⟩

/-- The surface with a colour laid over a rectangle. -/
def paint (s : Surface) (r : Rect) (level : Nat) (colour : Colour) : Surface :=
  { s with pixel := fun i j =>
      if r.contains i j then colour.blend level (s.pixel i j) else s.pixel i j }

def row (s : Surface) (j : Nat) : List Colour :=
  (List.range s.size.width).map fun (i : Nat) => s.pixel i j

/-- Runs of equal neighbours with their lengths. -/
def runs : List Colour → List (Nat × Colour)
  | [] => []
  | c :: rest =>
    match runs rest with
    | (n, d) :: more => if c = d then (n + 1, d) :: more else (1, c) :: (n, d) :: more
    | [] => [(1, c)]

/-- A row as its runs, each with its length. -/
def rowText (colours : List Colour) : String :=
  " ".intercalate ((runs colours).map fun (n, c) => toString n ++ "*" ++ c.text)

def rows (s : Surface) : List String :=
  (List.range s.size.height).map fun j => rowText (s.row j)

end Surface

end Slideshow
