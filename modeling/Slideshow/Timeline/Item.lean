import Slideshow.Number.Vec

/-!
# Scheduled items

An item is a picture with a place on the canvas and a time in the show.

## Main definitions

* `opacity`: how opaque something is at a time, given when it appears, for how long, and how long
  it takes to fade in and out.
* `Item`: a picture with its place and its schedule.
-/

namespace Slideshow

variable {α : Type} [Scalar α]

/-- The opacity at `time` of what appears at `start` for `duration`. Before and after it is zero;
where the two fades overlap, the first one counts. -/
def opacity (time start duration fadeIn fadeOut : α) : α :=
  if time < start then 0
  else
    let elapsed := time - start
    if duration ≤ elapsed then 0
    else if 0 < fadeIn ∧ elapsed < fadeIn then elapsed / fadeIn
    else
      let remaining := duration - elapsed
      if 0 < fadeOut ∧ remaining < fadeOut then remaining / fadeOut
      else 1

/-- A picture on the canvas. Position and size are fractions of the canvas, with the origin at the
bottom left. -/
structure Item (α : Type) where
  source : String
  position : Vec α
  size : Vec α
  start : α
  duration : α
  fadeIn : α
  fadeOut : α
  deriving DecidableEq, Repr

namespace Item

def defaultStart : α := 0

def defaultDuration : α := 5

def defaultFade : α := 1

/-- When the item is gone. -/
def finish (item : Item α) : α :=
  item.start + item.duration

def opacityAt (item : Item α) (time : α) : α :=
  opacity time item.start item.duration item.fadeIn item.fadeOut

/-- The item with its place given in units of a screen. -/
def onScreen (item : Item α) (screen : Vec α) : Item α :=
  { item with position := item.position.fractionOf screen, size := item.size.fractionOf screen }

end Item

end Slideshow
