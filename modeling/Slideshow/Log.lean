/-!
# The log

What the parts of a show report while it runs. An entry has a level, the part it comes from, and a
message. Pure functions answer the entries that belong to a step; where they go is decided outside.

## Main definitions

* `Log.Level`, `Log.Origin`, `Log.Entry`: an entry and what it is made of.
* `Log.Entry.line`: an entry as a line of a log file.
* `Log.atLeast`: the entries from a level on.
-/

namespace Slideshow.Log

/-- How much an entry matters. -/
inductive Level where
  | debug
  | info
  | warning
  deriving DecidableEq, Repr

/-- The rank of a level among the thresholds that can be set. -/
def Level.rank : Level → Int
  | .debug => 10
  | .info => 20
  | .warning => 30

def Level.name : Level → String
  | .debug => "DEBUG"
  | .info => "INFO"
  | .warning => "WARNING"

/-- The part of the program that reports. -/
inductive Origin where
  | description
  | playback
  | textures
  | viewer
  | remote
  deriving DecidableEq, Repr

/-- The name of a part in log lines. -/
def Origin.name : Origin → String
  | .description => "slide_parser"
  | .playback => "playback"
  | .textures => "renderer"
  | .viewer => "app"
  | .remote => "web_remote"

structure Entry where
  level : Level
  origin : Origin
  message : String
  deriving DecidableEq, Repr

/-- An entry as a line of a log file, without the time. -/
def Entry.line (e : Entry) : String :=
  e.origin.name ++ " - " ++ e.level.name ++ " - " ++ e.message

/-- The entries of a level whose rank is `threshold` or more. -/
def atLeast (threshold : Int) (entries : List Entry) : List Entry :=
  entries.filter fun e => threshold ≤ e.level.rank

end Slideshow.Log
