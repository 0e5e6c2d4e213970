import Slideshow.CommandLine.Options
import Slideshow.Text.Filling
import Slideshow.Text.Template

/-!
# Help

What the command line says about itself.

## Main definitions

* `Help.usage`: the usage in short.
* `Help.Entry.lines`: an argument with its explanation.
* `Help.text`: the whole help, or what is wrong with it.

## Design notes

Explanations name defaults, and are templates as a whole: a default that holds a percent sign is
expanded with what is known about its argument.
-/

namespace Slideshow.Help

/-- An argument as it is written, and the template of its explanation with the fields for it. -/
structure Entry where
  call : String
  purpose : String
  fields : Template.Fields := []

def margin : Nat := 24

def width : Nat := 54

def indented (line : String) : String :=
  "".pushn ' ' margin ++ line

/-- The lines of an argument and its explanation, which begins beside it if two blanks fit in
between. -/
def Entry.layOut (e : Entry) (purpose : String) : List String :=
  let call := "  " ++ e.call
  match Filling.lines width purpose with
  | [] => [call]
  | first :: more =>
    if call.length + 2 ≤ margin then
      (call.pushn ' ' (margin - call.length) ++ first) :: more.map indented
    else call :: (first :: more).map indented

/-- The lines of an argument, or what is wrong with its explanation. -/
def Entry.lines (e : Entry) : Except Template.Fault (List String) :=
  (Template.expand e.fields e.purpose).map e.layOut

def usage : List String :=
  ["usage: slideshow [-h] [--check] [--strict-newlines | --no-strict-newlines]",
    "                 [--windowed] [--no-remote] [--port PORT] [--song SONG]",
    "                 [--log-file LOG_FILE] [-v]",
    "                 [file]"]

def program : String := "slideshow"

/-- What an explanation can tell about its argument: the names of an option, how many values it
takes if that is not one, its default, and the explanation itself. -/
def fieldsOf (dest : String) (names : List String) (count : Template.Value)
    (default : Template.Value) (purpose : String) : Template.Fields :=
  [("option_strings", .list (names.map .text)), ("dest", .text dest), ("nargs", count),
    ("const", .nothing), ("default", default), ("type", .nothing), ("choices", .nothing),
    ("required", .flag false), ("help", .text purpose), ("metavar", .nothing),
    ("container", .handle "_ArgumentGroup"), ("prog", .text program)]

def words (s : Settings) : List Entry :=
  let purpose := "slideshow description (default: " ++ s.slideshowFile ++ ")"
  [⟨"file", purpose, fieldsOf "file" [] (.text "?") (.text s.slideshowFile) purpose⟩]

def songEntry (s : Settings) : Entry :=
  let purpose := "soundtrack restarted on every loop (default: " ++ s.songPath ++ ")"
  ⟨"--song SONG", purpose, fieldsOf "song" ["--song"] .nothing .nothing purpose⟩

def switches (s : Settings) : List Entry :=
  [{ call := "-h, --help", purpose := "show this help message and exit" },
    { call := "--check", purpose := "parse, print the timeline and exit" },
    { call := "--strict-newlines, --no-strict-newlines"
      purpose := "require a newline after every assignment" },
    { call := "--windowed", purpose := "run in a window instead of fullscreen" },
    { call := "--no-remote", purpose := "do not start the web remote" },
    { call := "--port PORT", purpose := "" },
    songEntry s,
    { call := "--log-file LOG_FILE", purpose := "" },
    { call := "-v, --verbose", purpose := "" }]

/-- All lines of some arguments, or what is wrong with the first faulty explanation. -/
def entryLines (entries : List Entry) : Except Template.Fault (List String) := do
  return (← entries.mapM Entry.lines).flatten

/-- All lines of the help. -/
def lines (s : Settings) : Except Template.Fault (List String) := do
  let words ← entryLines (words s)
  let switches ← entryLines (switches s)
  return usage ++ ["", "Multiscreen slideshow player", "", "positional arguments:"] ++ words ++
    ["", "options:"] ++ switches

def text (s : Settings) : Except Template.Fault String :=
  (lines s).map fun lines => String.join (lines.map (· ++ "\n"))

def complaint (message : String) : String :=
  String.join (usage.map (· ++ "\n")) ++ program ++ ": error: " ++ message ++ "\n"

end Slideshow.Help
