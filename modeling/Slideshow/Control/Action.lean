import Slideshow.Json.Basic

/-!
# Actions

What a viewer can be asked to do, and how keys and remote commands ask for it.

## Main definitions

* `Action`: the four requests.
* `Action.toJson`, `Action.ofName?`: an action as a queued message, and back from its name.
* `Action.ofEvent?`: the action of a key or of the window being closed.
* `Action.ofCommand?`: the action of a remote command.
-/

namespace Slideshow

inductive Action where
  | start
  | quit
  | toggleOverlay
  | toggleFullscreen
  deriving DecidableEq, Repr

/-- An event of the window: its kind, and the key that it is about. -/
structure InputEvent where
  kind : Int
  key : Option Int
  deriving DecidableEq, Repr

namespace InputEvent

/-- The kind of event that closes the window. -/
def closed : Int := 256

/-- The kind of event that a key going down is. -/
def keyDown : Int := 768

def close : InputEvent := ⟨closed, none⟩

end InputEvent

namespace Action

def name : Action → String
  | .start => "start"
  | .quit => "quit"
  | .toggleOverlay => "toggle_overlay"
  | .toggleFullscreen => "toggle_fullscreen"

def all : List Action :=
  [.start, .quit, .toggleOverlay, .toggleFullscreen]

def ofName? (name : String) : Option Action :=
  all.find? fun a => a.name == name

theorem ofName?_name (a : Action) : ofName? a.name = some a := by
  cases a <;> decide

def toJson (a : Action) : Json :=
  .object [("type", .string a.name)]

/-- The keys that ask for something: escape, Q, space, I and F. -/
def ofKey? : Int → Option Action
  | 27 | 113 => some .quit
  | 32 => some .start
  | 105 => some .toggleOverlay
  | 102 => some .toggleFullscreen
  | _ => none

/-- What an event of the window asks for. Only keys going down count. -/
def ofEvent? (e : InputEvent) : Option Action :=
  if e.kind = InputEvent.closed then some .quit
  else if e.kind = InputEvent.keyDown then e.key.bind ofKey?
  else none

def command : Action → String
  | .start => "start"
  | .quit => "quit"
  | .toggleOverlay => "toggle"
  | .toggleFullscreen => "fullscreen"

def ofCommand? (command : String) : Option Action :=
  all.find? fun a => a.command == command

theorem ofCommand?_command (a : Action) : ofCommand? a.command = some a := by
  cases a <;> decide

end Action

end Slideshow
