import Slideshow.Settings

/-!
# Options

What can be said on the command line, and what it amounts to.

## Main definitions

* `Switch`: an option by what it does.
* `Switch.table`: the names of all options.
* `OptionValue`: the value of an option.
* `Options`: what a command line amounts to.
-/

namespace Slideshow

inductive Switch where
  | help
  | check
  | strictNewlines (on : Bool)
  | windowed
  | noRemote
  | remotePort
  | song
  | logFile
  | verbose
  deriving DecidableEq, Repr

namespace Switch

def table : List (String × Switch) :=
  [("-h", .help), ("--help", .help),
    ("--check", .check),
    ("--strict-newlines", .strictNewlines true), ("--no-strict-newlines", .strictNewlines false),
    ("--windowed", .windowed),
    ("--no-remote", .noRemote),
    ("--port", .remotePort),
    ("--song", .song),
    ("--log-file", .logFile),
    ("-v", .verbose), ("--verbose", .verbose)]

def takesValue : Switch → Bool
  | .remotePort | .song | .logFile => true
  | _ => false

/-- How complaints call the option. -/
def title : Switch → String
  | .help => "-h/--help"
  | .check => "--check"
  | .strictNewlines _ => "--strict-newlines/--no-strict-newlines"
  | .windowed => "--windowed"
  | .noRemote => "--no-remote"
  | .remotePort => "--port"
  | .song => "--song"
  | .logFile => "--log-file"
  | .verbose => "-v/--verbose"

end Switch

/-- The value of an option. Two dashes behind an equals sign stand for no value at all. -/
inductive OptionValue (α : Type) where
  | absent
  | emptied
  | given (value : α)
  deriving DecidableEq, Repr

def OptionValue.value? {α : Type} : OptionValue α → Option α
  | .given value => some value
  | _ => none

def OptionValue.ofOption {α : Type} : Option α → OptionValue α
  | some value => .given value
  | none => .absent

/-- What a command line amounts to. -/
structure Options where
  file : String
  check : Bool
  strictNewlines : Bool
  windowed : Bool
  noRemote : Bool
  remotePort : OptionValue Int
  song : OptionValue String
  logFile : OptionValue String
  verbose : Bool
  deriving DecidableEq, Repr

/-- What an empty command line amounts to. -/
def Options.ofSettings (s : Settings) : Options where
  file := s.slideshowFile
  check := false
  strictNewlines := s.strictNewlines
  windowed := false
  noRemote := false
  remotePort := .given s.webPort
  song := .absent
  logFile := .ofOption s.logFile
  verbose := false

end Slideshow
