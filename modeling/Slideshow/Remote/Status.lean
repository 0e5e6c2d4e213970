import Slideshow.Json.Writer
import Slideshow.Playback.Basic

/-!
# What the remote tells

The state of the show as data: a summary of what the viewer does, and the timeline with the present
opacity of every item.

## Main definitions

* `Status`: the summary.
* `Payload`: the clock and the timeline.
* `Status.toJson`, `Payload.toJson`: both as JSON.
-/

namespace Slideshow

/-- A summary of what the viewer does. -/
structure Status (α : Type) where
  started : Bool
  frameTime : α
  loopLength : α
  loops : Nat
  items : Nat
  drawn : Nat
  textures : Nat
  overlay : Bool
  soundtrack : Option String
  fullscreen : Bool
  deriving DecidableEq, Repr

/-- An item with its present opacity. -/
structure PayloadItem (α : Type) where
  item : Item α
  opacity : α
  deriving DecidableEq, Repr

/-- The clock of a show and all its items, from bottom to top. -/
structure Payload (α : Type) where
  started : Bool
  frameTime : α
  loopLength : α
  loops : Nat
  items : List (PayloadItem α)
  deriving DecidableEq, Repr

/-- The payload of a show. Before it begins nothing is opaque. -/
def Payload.ofPlayback {α : Type} [Scalar α] (p : Playback α) : Payload α where
  started := p.clock.started
  frameTime := p.clock.frameTime
  loopLength := p.timeline.length
  loops := p.loops
  items := p.opacities.map fun (item, opacity) =>
    ⟨item, if p.clock.started then opacity else 0⟩

def Vec.toJson (v : Vec Float) : Json :=
  .array [.number v.x, .number v.y]

def PayloadItem.toJson (entry : PayloadItem Float) : Json :=
  .object [
    ("source", .string entry.item.source),
    ("position", entry.item.position.toJson),
    ("size", entry.item.size.toJson),
    ("start", .number entry.item.start),
    ("duration", .number entry.item.duration),
    ("fadeIn", .number entry.item.fadeIn),
    ("fadeOut", .number entry.item.fadeOut),
    ("alpha", .number entry.opacity)]

def Payload.toJson (p : Payload Float) : Json :=
  .object [
    ("started", .bool p.started),
    ("frameTime", .number p.frameTime),
    ("totalLoop", .number p.loopLength),
    ("loops", .integer p.loops),
    ("items", .array (p.items.map PayloadItem.toJson))]

/-- The time of the last frame to the thousandth. -/
def Status.roundedTime (s : Status Float) : Float :=
  Binary64.roundPlaces 3 s.frameTime

def Status.toJson (s : Status Float) : Json :=
  .object [
    ("started", .bool s.started),
    ("frame_time", .number s.roundedTime),
    ("loop_length", .number s.loopLength),
    ("loops", .integer s.loops),
    ("items", .integer s.items),
    ("items_drawn", .integer s.drawn),
    ("textures", .integer s.textures),
    ("overlay", .bool s.overlay),
    ("soundtrack", match s.soundtrack with
      | some path => .string path
      | none => .null),
    ("fullscreen", .bool s.fullscreen)]

end Slideshow
