import Slideshow.CommandLine.Arguments
import Slideshow.CommandLine.Help
import Slideshow.Description.Source
import Slideshow.Timeline.Table
import Slideshow.Viewer

/-!
# Running a command line

From a command line to what the program leaves behind: its output, its log, the files, and the code
it exits with.

## Main definitions

* `Surroundings`: what a run finds.
* `Outcome`: what it leaves behind.
* `CommandLine.run`: the run.

## Design notes

The log file is where its path leads to by its text alone: a path that goes up from what is no
directory is fine. It is emptied before the description is read, so a description in that place is
empty. A check prints the table of the timeline and leaves the log file alone.
-/

namespace Slideshow

/-- What a run finds: settings, files and pictures, and the input that comes in while the show is
on. -/
structure Surroundings where
  settings : Settings
  files : Files
  gallery : Gallery
  inputs : List (Viewer.Input Float)

/-- How a run ends by itself: its code, what it printed, and what it complained about. -/
structure Exit where
  code : Nat
  output : String
  complaint : String
  deriving DecidableEq, Repr

/-- What a run leaves behind: the reports that mattered, the files, whether the window covered the
screen, and how it ended. -/
structure Outcome (ε : Type) where
  log : List Log.Entry
  files : Files
  fullscreen : Bool
  ending : Except ε Exit

namespace CommandLine

/-- Why a run breaks off. -/
inductive Fault where
  | help (fault : Template.Fault)
  | file (fault : FileFault)
  | conversion (kind : NonFinite)
  | viewer (fault : Viewer.Fault)

def Fault.message : Fault → String
  | .help fault => fault.message
  | .file fault => fault.message
  | .conversion kind => kind.message
  | .viewer fault => fault.message

/-- A run that ends before anything is reported. -/
def leave (s : Surroundings) (ending : Except Fault Exit) : Outcome Fault :=
  ⟨[], s.files, s.settings.fullscreen, ending⟩

/-- The rank from which on reports matter. -/
def threshold (settings : Settings) (options : Options) : Int :=
  if options.verbose then Log.Level.debug.rank else settings.logLevel

/-- The file that the log goes to, if any, by its path from the root. -/
def logPath? (files : Files) (options : Options) : Option String :=
  if options.check then none
  else (options.logFile.value?.filter (!·.isEmpty)).map (Path.normalize files.home)

/-- The soundtrack. No path is silence. -/
def songPath (settings : Settings) (options : Options) : String :=
  match options.song with
  | .absent => settings.songPath
  | .emptied => ""
  | .given path => path

/-- How a reading that came to no text ends the run. A path that is none is not complained about but
breaks it off. -/
def sourceEnding (path : String) : Source.Fault → Except Fault Exit
  | .file .zeroByte => .error (.file .zeroByte)
  | .file fault => .ok ⟨1, "", "cannot read slideshow file: " ++ fault.message ++ "\n"⟩
  | .encoding fault =>
    .ok ⟨1, "", path ++ ": cannot decode as UTF-8: " ++ fault.message ++ "\n"⟩

/-- The exit at a fault in a description. -/
def faultExit (path : String) (fault : Slideshow.Fault) (line column : Nat) : Exit :=
  ⟨1, "", path ++ ": " ++ Cursor.complaint line column fault.message ++ "\n"⟩

def checkExit (timeline : Timeline Float) : Exit :=
  ⟨0, String.join ((Table.lines timeline).map (· ++ "\n")), ""⟩

def view (s : Surroundings) (options : Options) (log : List Log.Entry)
    (timeline : Timeline Float) : Outcome Fault :=
  let studio : Viewer.Studio :=
    ⟨{ s.settings with fullscreen := s.settings.fullscreen && !options.windowed }, s.gallery⟩
  let song := songPath s.settings options
  match Viewer.run studio s.inputs (.setUp studio timeline song (s.files.isFile song)) with
  | .ok _ v => ⟨log ++ v.log, s.files, v.fullscreen, .ok ⟨0, "", ""⟩⟩
  | .error fault v => ⟨log ++ v.log, s.files, v.fullscreen, .error (.viewer fault)⟩

def proceed (s : Surroundings) (options : Options) (reading : Reading Float) : Outcome Fault :=
  let log := Source.report options.file reading
  match reading.failure with
  | some (.grammar fault line column) =>
    { leave s (.ok (faultExit options.file fault line column)) with log := log }
  | some (.conversion kind) => { leave s (.error (.conversion kind)) with log := log }
  | none =>
    let timeline := reading.draft.timeline
    if options.check then { leave s (.ok (checkExit timeline)) with log := log }
    else view s options log timeline

def load (s : Surroundings) (options : Options) : Outcome Fault :=
  match Source.load { strictNewlines := options.strictNewlines } s.files options.file with
  | .error fault => leave s (sourceEnding options.file fault)
  | .ok reading => proceed s options reading

/-- The outcome with only those reports that matter. -/
def sift (settings : Settings) (options : Options) (o : Outcome Fault) : Outcome Fault :=
  { o with log := Log.atLeast (threshold settings options) o.log }

/-- The reports as text, a line for each. -/
def logText (log : List Log.Entry) : String :=
  String.join (log.map fun entry => entry.line ++ "\n")

/-- Reads and shows with a log file, which is emptied first and written at last. -/
def loadLogged (s : Surroundings) (options : Options) (path : String) : Outcome Fault :=
  match s.files.writeFault? path with
  | some fault => leave s (.error (.file fault))
  | none =>
    let o := sift s.settings options (load { s with files := s.files.write path [] } options)
    { o with files := o.files.write path (logText o.log).toUTF8.toList }

def obey (s : Surroundings) (options : Options) : Outcome Fault :=
  match logPath? s.files options with
  | some path => loadLogged s options path
  | none => sift s.settings options (load s options)

/-- The run of a command line. -/
def run (s : Surroundings) (arguments : List String) : Outcome Fault :=
  match Arguments.parse s.settings arguments with
  | .error fault => leave s (.ok ⟨2, "", Help.complaint fault.message⟩)
  | .ok none =>
    match Help.text s.settings with
    | .ok text => leave s (.ok ⟨0, text, ""⟩)
    | .error fault => leave s (.error (.help fault))
  | .ok (some options) => obey s options

/-- The paths that a run may look at. -/
def paths (files : Files) (settings : Settings) (arguments : List String) : List String :=
  match Arguments.parse settings arguments with
  | .ok (some options) =>
    [options.file, songPath settings options] ++ (logPath? files options).toList
  | _ => []

end CommandLine

end Slideshow
