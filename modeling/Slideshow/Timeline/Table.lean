import Slideshow.Number.Decimal
import Slideshow.Timeline.Basic

/-!
# The table of a timeline

A timeline as lines of text: a head, a row for each item from bottom to top, and a count.

## Main definitions

* `Table.row`: the row of an item.
* `Table.lines`: the whole table.
-/

namespace Slideshow.Table

variable {α : Type} [Scalar α]

/-- A number with a fixed count of places in a column. -/
def column (width places : Nat) (x : α) : String :=
  Decimal.pad width (Decimal.fixed places x)

def head : String :=
  Decimal.pad 7 "start" ++ " " ++ Decimal.pad 6 "dur" ++ " " ++ Decimal.pad 4 "in" ++ " " ++
    Decimal.pad 4 "out" ++ "  " ++ Decimal.pad 6 "x" ++ " " ++ Decimal.pad 6 "y" ++ " " ++
    Decimal.pad 6 "w" ++ " " ++ Decimal.pad 6 "h" ++ "  source"

/-- The row of an item: its schedule, its place and its picture. -/
def row (item : Item α) : String :=
  column 7 2 item.start ++ " " ++ column 6 2 item.duration ++ " " ++ column 4 1 item.fadeIn ++
    " " ++ column 4 1 item.fadeOut ++ "  " ++ column 6 3 item.position.x ++ " " ++
    column 6 3 item.position.y ++ " " ++ column 6 3 item.size.x ++ " " ++ column 6 3 item.size.y ++
    "  " ++ item.source

/-- The number of items and the length of the show. -/
def foot (t : Timeline α) : String :=
  toString t.size ++ " items, loop " ++ Decimal.fixed 2 t.length ++ "s"

/-- The table of a timeline. -/
def lines (t : Timeline α) : List String :=
  head :: t.layers.map row ++ [foot t]

end Slideshow.Table
