import Slideshow.Path
import Slideshow.Text.Quoted

/-!
# Files

The files that a show can read, as far as it needs to know them: what is at a place, and why a path
leads to nothing that can be read.

## Main definitions

* `Files`: what is at which place.
* `Files.locate`: the place that a path leads to.
* `Files.read`: the bytes at a path, or the reason why there are none.
* `Files.write`: the files with one written, and `Files.writeFault?` why that is not possible.

## Design notes

A place above another one is a directory, and so is the directory that relative paths begin at. A
path is followed part by part: what it goes on from has to be a directory, even if the next part
stays there.
-/

namespace Slideshow

/-- What is at a place. A sink takes what is written to it and stays empty. -/
inductive Node where
  | folder
  | file (bytes : List UInt8)
  | sink
  deriving DecidableEq, Repr

/-- What is at which place, and the directory that relative paths begin at. -/
structure Files where
  nodes : List (Location × Node) := []
  home : Location := []
  deriving DecidableEq, Repr

/-- Why a path leads to no file. -/
inductive FileFault where
  | notFound (path : String)
  | isDirectory (path : String)
  | notDirectory (path : String)
  | longName (path : String)
  | zeroByte
  deriving DecidableEq, Repr

def FileFault.message : FileFault → String
  | .notFound path => "[Errno 2] No such file or directory: " ++ Quoted.text path
  | .isDirectory path => "[Errno 21] Is a directory: " ++ Quoted.text path
  | .notDirectory path => "[Errno 20] Not a directory: " ++ Quoted.text path
  | .longName path => "[Errno 36] File name too long: " ++ Quoted.text path
  | .zeroByte => "embedded null byte"

namespace Files

def node? (files : Files) (place : Location) : Option Node :=
  match files.nodes.lookup place with
  | some node => some node
  | none =>
    if place.isPrefixOf files.home || files.nodes.any fun entry => place.isPrefixOf entry.1 then
      some .folder
    else none

/-- The most bytes that a name can have. -/
def nameLimit : Nat := 255

/-- The most bytes that a path can have. -/
def pathLimit : Nat := 4095

/-- Follows the parts of a path from `here`. -/
def follow (files : Files) (path : String) (here : Location) :
    List String → Except FileFault Location
  | [] => .ok here
  | part :: rest =>
    match files.node? here with
    | none => .error (.notFound path)
    | some .folder =>
      if nameLimit < part.utf8ByteSize then .error (.longName path)
      else follow files path (Path.step here part) rest
    | some _ => .error (.notDirectory path)

/-- The place that a path leads to. There need not be anything, but there has to be a directory for
it. -/
def locate (files : Files) (path : String) : Except FileFault Location :=
  if path.toList.contains '\x00' then .error .zeroByte
  else if path.isEmpty then .error (.notFound path)
  else if pathLimit < path.utf8ByteSize then .error (.longName path)
  else files.follow path (if Path.isAbsolute path then [] else files.home) (Path.parts path)

/-- The bytes at a path, or the reason why there are none. -/
def read (files : Files) (path : String) : Except FileFault (List UInt8) := do
  match files.node? (← files.locate path) with
  | none => throw (.notFound path)
  | some .folder => throw (.isDirectory path)
  | some (.file bytes) => return bytes
  | some .sink => return []

def isFile (files : Files) (path : String) : Bool :=
  match files.locate path with
  | .error _ => false
  | .ok place =>
    match files.node? place with
    | some (.file _) => true
    | _ => false

/-- The files with something at a place. -/
def put (files : Files) (place : Location) (node : Node) : Files :=
  { files with nodes := (place, node) :: files.nodes.filter fun entry => entry.1 != place }

/-- The files with bytes where a path leads to, whatever is there. -/
def add (files : Files) (path : String) (bytes : List UInt8) : Files :=
  files.put (Path.resolve files.home path) (.file bytes)

/-- The files with a directory where a path leads to, if nothing is there. -/
def addFolder (files : Files) (path : String) : Files :=
  match files.locate path with
  | .error _ => files
  | .ok place => if (files.node? place).isSome then files else files.put place .folder

/-- Why nothing can be written at a path, if so. -/
def writeFault? (files : Files) (path : String) : Option FileFault :=
  match files.locate path with
  | .error fault => some fault
  | .ok place =>
    match files.node? place with
    | some .folder => some (.isDirectory path)
    | _ => none

/-- The files with bytes written at a path, if that is possible. -/
def write (files : Files) (path : String) (bytes : List UInt8) : Files :=
  match files.locate path with
  | .error _ => files
  | .ok place =>
    match files.node? place with
    | some .folder | some .sink => files
    | _ => files.put place (.file bytes)

end Files

end Slideshow
