import Slideshow.Playback.Basic

/-!
# The overlay

The lines that tell about a running show: its position in the loop and the items that show.

## Main definitions

* `Overlay.clockText`: seconds as hours, minutes and seconds.
* `Overlay.lines`: the lines of the overlay.
* `Overlay.fontSizes`: the sizes of its letters.
-/

namespace Slideshow.Overlay

variable {α : Type} [Scalar α]

/-- Whole seconds as hours, minutes and seconds of two digits at least. -/
def clockFace (seconds : Nat) : String :=
  Decimal.padZero 2 (seconds / 3600) ++ ":" ++ Decimal.padZero 2 (seconds / 60 % 60) ++ ":" ++
    Decimal.padZero 2 (seconds % 60)

/-- A time without its fraction. What is not positive shows as zero; an infinite time has no
text. -/
def clockText (seconds : α) : Except NonFinite String :=
  if (0 : α) < seconds then (Scalar.truncate seconds).map fun n => clockFace n.toNat
  else .ok (clockFace 0)

/-- The part of a path behind its last slash. -/
def fileName (path : String) : String :=
  String.ofList (path.toList.reverse.takeWhile (· != '/')).reverse

def itemLine (time : α) (entry : Item α × α) : Except NonFinite String := do
  let left ← clockText (entry.1.finish - time)
  return fileName entry.1.source ++ "  " ++ Decimal.pad 4 (Decimal.fixed 2 entry.2) ++
    "  ends in " ++ left

/-- The lines of the overlay: one before the show, afterwards a head of three and one for every
item that shows. -/
def lines (p : Playback α) : Except NonFinite (List String) :=
  if p.clock.started then do
    let time ← clockText p.clock.frameTime
    let total ← clockText p.timeline.length
    let items ← p.visible.mapM (itemLine p.clock.frameTime)
    return ["Position   " ++ time ++ " / " ++ total,
      "Loop       #" ++ toString p.loops,
      "--  visible  --"] ++ items
  else do
    let total ← clockText p.timeline.length
    return ["Waiting for start  (" ++ toString p.timeline.size ++ " items, loop " ++ total ++ ")"]

/-- The sizes of small and of larger letters on a window of a height. -/
def fontSizes (height : Int) : Int × Int :=
  (max 12 (height.fdiv 60), max 16 (height.fdiv 45))

end Slideshow.Overlay
