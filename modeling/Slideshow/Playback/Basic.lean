import Slideshow.Log
import Slideshow.Number.Decimal
import Slideshow.Playback.Loop
import Slideshow.Timeline.Basic

/-!
# Playback

A timeline being played. Playback begins once and for all; from then on every frame moves the clock
to the present and learns whether the loop has just begun anew.

## Main definitions

* `Clock`: when the show began, where in the loop it is, and where it was a frame ago.
* `Playback`: a timeline with its clock and the number of loops begun.
* `Playback.start`, `Playback.tick`: the two transitions.
* `Playback.opacities`, `Playback.visible`: the items with their present opacity, from bottom to
  top.

## Design notes

Time is an input and no clock is read here. Before the first frame there is no earlier one; it
counts as infinitely late, so that the first frame begins a loop like every later wrap.
-/

namespace Slideshow

/-- A clock of the show. `previous` is the time of the last frame, if there was one. -/
structure Clock (α : Type) where
  started : Bool
  frameStart : α
  frameTime : α
  previous : Option α
  deriving DecidableEq, Repr

/-- A timeline being played. -/
structure Playback (α : Type) where
  timeline : Timeline α
  clock : Clock α
  loops : Nat
  deriving DecidableEq, Repr

variable {α : Type} [Scalar α]

/-- The clock before the show. -/
def Clock.initial : Clock α := ⟨false, 0, 0, none⟩

/-- Whether `time` is earlier in the loop than the last frame was. -/
def Clock.isBefore (time : α) : Option α → Bool
  | none => Scalar.belowInfinity time
  | some previous => decide (time < previous)

namespace Playback

/-- Playback of a timeline that has not begun. -/
def ofTimeline (timeline : Timeline α) : Playback α :=
  ⟨timeline, .initial, 0⟩

/-- Begins playback at `now`. The answer is whether it had not begun before. -/
def start (now : α) (p : Playback α) : Bool × Playback α :=
  if p.clock.started then (false, p)
  else (true, { p with clock := { p.clock with started := true, frameStart := now } })

/-- Moves the clock to `now`. The answer is whether a loop began with this frame. -/
def tick (now : α) (p : Playback α) : Bool × Playback α :=
  if p.clock.started then
    let time := Loop.wrap (now - p.clock.frameStart) p.timeline.length
    let wrapped := Clock.isBefore time p.clock.previous
    (wrapped, { p with
      clock := { p.clock with frameTime := time, previous := some time }
      loops := if wrapped then p.loops + 1 else p.loops })
  else (false, p)

/-- Every item with its opacity, from bottom to top. -/
def opacities (p : Playback α) : List (Item α × α) :=
  p.timeline.layers.map fun item => (item, item.opacityAt p.clock.frameTime)

/-- The items that show, from bottom to top. Before the show none does. -/
def visible (p : Playback α) : List (Item α × α) :=
  if p.clock.started then p.opacities.filter fun (_, opacity) => (0 : α) < opacity else []

def setUpReport (timeline : Timeline α) : List Log.Entry :=
  if !timeline.isEmpty ∧ timeline.length ≤ 0 then
    [⟨.warning, .playback, "slideshow has zero total duration; nothing will be shown"⟩]
  else []

def startReport (p : Playback α) : Log.Entry :=
  ⟨.info, .playback, "Playback started (loop " ++ Decimal.fixed 1 p.timeline.length ++ "s, " ++
    toString p.timeline.size ++ " items)"⟩

def wrapReport (p : Playback α) : Log.Entry :=
  ⟨.debug, .playback, "loop wrap #" ++ toString p.loops ++ " at " ++
    Decimal.fixed 3 p.clock.frameTime ++ "s"⟩

end Playback

end Slideshow
