import Slideshow.Canvas.Picture
import Slideshow.Control.Queue
import Slideshow.Json.Writer
import Slideshow.Playback.Overlay
import Slideshow.Settings

/-!
# The viewer

The viewer plays a timeline in a window. It goes from pass to pass: it takes the messages that wait,
does what they ask for, moves the clock, and draws what shows.

## Main definitions

* `Viewer`: the state between two passes.
* `Viewer.setUp`: the viewer of a timeline.
* `Viewer.act`, `Viewer.obey`: what an action and what a message does.
* `Viewer.pass`, `Viewer.frame`, `Viewer.run`: one pass, a pass with its input, and passes until the
  viewer stops.

## Design notes

The clock stands still during a pass, and a pass in which the viewer is told to quit is finished
like any other. A pass can fail, at a message that names no action, at a number that is not finite
or at a text that cannot be drawn; what it did before stays done.
-/

namespace Slideshow

/-- What the soundtrack is told. -/
inductive Cue where
  | restart
  | close
  deriving DecidableEq, Repr

def Cue.name : Cue → String
  | .restart => "restart"
  | .close => "close"

/-- The state of the viewer between two passes. `modes` is what the display was asked for, the last
of it at the end, `cues` what the soundtrack was told, if there is one, and `log` what was
reported. -/
structure Viewer (α : Type) where
  playback : Playback α
  textures : TextureCache
  queue : Queue
  overlay : Bool
  fullscreen : Bool
  modes : List Mode
  running : Bool
  drawn : Nat
  cues : Option (List Cue)
  log : List Log.Entry

namespace Viewer

/-- Why a pass cannot be finished. -/
inductive Fault where
  /-- A time, a place or an opacity that is not finite. -/
  | conversion (kind : NonFinite)
  /-- A message without a type. -/
  | untyped (message : Json)
  /-- A line of the overlay with a zero character, which cannot be drawn. -/
  | zeroCharacter

/-- What is said about asking a message for its type, when it lacks one. Texts and lists have places
that are counted, and single values have none. -/
def lackText : Json → String
  | .object _ => "'type'"
  | .string _ => "string indices must be integers, not 'str'"
  | .array _ => "list indices must be integers or slices, not str"
  | .integer _ => "'int' object is not subscriptable"
  | .number _ => "'float' object is not subscriptable"
  | .bool _ => "'bool' object is not subscriptable"
  | .null => "'NoneType' object is not subscriptable"

def Fault.message : Fault → String
  | .conversion kind => kind.message
  | .untyped message => lackText message
  | .zeroCharacter => "A null character was found in the text"

/-- What the viewer depends on besides its input: the settings and the pictures. -/
structure Studio where
  settings : Settings
  gallery : Gallery

variable {α : Type} [Scalar α]

abbrev Step (α β : Type) := EStateM Fault (Viewer α) β

/-- Lets a conversion fail a pass. -/
def convert {β : Type} : Except NonFinite β → Step α β
  | .ok b => pure b
  | .error kind => throw (.conversion kind)

/-- The report about a soundtrack that is not there. -/
def silenceReport (song : String) (songExists : Bool) : List Log.Entry :=
  if song.isEmpty ∨ songExists then []
  else [⟨.warning, .viewer, "soundtrack " ++ song ++ " not found; playing silently"⟩]

/-- The viewer of a timeline. All textures are loaded here. -/
def setUp (studio : Studio) (timeline : Timeline α) (song : String) (songExists : Bool) :
    Viewer α :=
  let textures := TextureCache.empty.loadAll studio.gallery timeline.sources
  { playback := .ofTimeline timeline
    textures := textures
    queue := .empty
    overlay := studio.settings.showOverlays
    fullscreen := studio.settings.fullscreen
    modes := [studio.settings.mode studio.settings.fullscreen]
    running := true
    drawn := 0
    cues := if !song.isEmpty ∧ songExists then some [] else none
    log := Playback.setUpReport timeline ++ textures.report ++ silenceReport song songExists }

/-- The window that the display has given. -/
def window (studio : Studio) (v : Viewer α) : WindowSize :=
  studio.settings.display v.modes

/-- Does what an action asks for. -/
def act (studio : Studio) (now : α) (v : Viewer α) : Action → Viewer α
  | .quit => { v with running := false }
  | .start =>
    let (began, playback) := v.playback.start now
    { v with
      playback := playback
      log := if began then v.log ++ [playback.startReport] else v.log }
  | .toggleOverlay => { v with overlay := !v.overlay }
  | .toggleFullscreen =>
    { v with
      fullscreen := !v.fullscreen
      modes := v.modes ++ [studio.settings.mode !v.fullscreen]
      textures := v.textures.clearCopies }

/-- Reports a message that asks for nothing known. -/
def ignore (message : Json) (v : Viewer α) : Viewer α :=
  { v with log := v.log ++
      [⟨.warning, .viewer, "ignoring unknown action " ++ message.display⟩] }

def obey (studio : Studio) (now : α) (message : Json) : Step α Unit :=
  match message with
  | .object fields =>
    match Json.find? fields "type" with
    | none => throw (.untyped message)
    | some (.string name) =>
      match Action.ofName? name with
      | some a => modify (·.act studio now a)
      | none => modify (·.ignore message)
    | some _ => modify (·.ignore message)
  | _ => throw (.untyped message)

/-- Takes messages and does what they ask for, up to and with the first that counts as nothing.
Those behind it go on waiting, and so do those behind one that fails. -/
def obeyFrom (studio : Studio) (now : α) : List Json → Step α Unit
  | [] => pure ()
  | message :: messages => do
    modify fun v => { v with queue := ⟨messages⟩ }
    if message.isTruthy then
      obey studio now message
      obeyFrom studio now messages

/-- Takes the messages that wait, and does what they ask for. -/
def drain (studio : Studio) (now : α) : Step α Unit := do
  obeyFrom studio now (← get).queue.messages

/-- Moves the clock. A loop that begins restarts the soundtrack. -/
def advance (now : α) (v : Viewer α) : Viewer α :=
  let (wrapped, playback) := v.playback.tick now
  if wrapped then
    { v with
      playback := playback
      cues := v.cues.map (· ++ [.restart])
      log := v.log ++ [playback.wrapReport] }
  else { v with playback := playback }

def render (studio : Studio) : Step α Unit := do
  let v ← get
  let size := v.window studio
  let drawing := Canvas.draw studio.gallery size studio.settings.background v.playback.visible
  match drawing v.textures with
  | .ok canvas textures => set { v with textures := textures, drawn := canvas.drawn }
  | .error kind textures => do
    set { v with textures := textures }
    throw (.conversion kind)

/-- Draws the overlay, if it is on. -/
def renderOverlay : Step α Unit := do
  let v ← get
  if v.overlay then
    let lines ← convert (Overlay.lines v.playback)
    if lines.any (·.contains '\x00') then throw .zeroCharacter

def pass (studio : Studio) (now : α) : Step α Unit := do
  drain studio now
  modify (·.advance now)
  render studio
  renderOverlay

/-- What comes in before a pass: messages, then events of the window. -/
structure Input (α : Type) where
  now : α
  messages : List Json
  events : List InputEvent

/-- What a pass leaves behind, with the cues that it gave. -/
structure Report (α : Type) where
  running : Bool
  started : Bool
  frameTime : α
  loops : Nat
  drawn : Nat
  overlay : Bool
  fullscreen : Bool
  textures : Nat
  copies : Nat
  cues : List Cue

/-- The report on a viewer whose soundtrack had been given `earlier` cues before. -/
def report (earlier : Nat) (v : Viewer α) : Report α where
  running := v.running
  started := v.playback.clock.started
  frameTime := v.playback.clock.frameTime
  loops := v.playback.loops
  drawn := v.drawn
  overlay := v.overlay
  fullscreen := v.fullscreen
  textures := v.textures.loaded.length
  copies := v.textures.copies.length
  cues := (v.cues.getD []).drop earlier

/-- The viewer with its input queued. -/
def receive (input : Input α) (v : Viewer α) : Viewer α :=
  let queue := input.messages.foldl (fun q m => q.put m) v.queue
  { v with queue := input.events.foldl (fun q e => q.handle e) queue }

def frame (studio : Studio) (input : Input α) : Step α (Report α) := do
  let earlier := ((← get).cues.getD []).length
  modify (·.receive input)
  pass studio input.now
  return (← get).report earlier

/-- Passes until the viewer stops or the inputs end. -/
def frames (studio : Studio) : List (Input α) → Step α (List (Report α))
  | [] => pure []
  | input :: inputs => do
    let report ← frame studio input
    if report.running then return report :: (← frames studio inputs)
    else return [report]

/-- The input that ends a run. -/
def lastInput (now : α) : Input α :=
  ⟨now, [], [.close]⟩

/-- The inputs of a run: the window is closed after the last of them, if the viewer still runs. -/
def withLast (inputs : List (Input α)) : List (Input α) :=
  inputs ++ [lastInput ((inputs.getLast?.map Input.now).getD 0)]

def close (v : Viewer α) : Viewer α :=
  { v with cues := v.cues.map (· ++ [.close]) }

/-- A run: passes until the viewer stops. -/
def run (studio : Studio) (inputs : List (Input α)) : Step α (List (Report α)) := do
  let reports ← frames studio (withLast inputs)
  modify close
  return reports

end Viewer

end Slideshow
