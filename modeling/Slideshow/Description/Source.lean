import Slideshow.Description.Reading
import Slideshow.Files
import Slideshow.Text.LineEnding
import Slideshow.Text.Utf8

/-!
# Description files

A description is read from a file of bytes: the bytes are decoded, line endings are unified, and the
text is read.

## Main definitions

* `Source.Fault`: why there is no text.
* `Source.text`: the text of a file.
* `Source.load`: the reading of a file.
* `Source.report`: what is reported of it.
-/

namespace Slideshow.Source

/-- Why there is no text at a path. -/
inductive Fault where
  | file (fault : FileFault)
  | encoding (fault : Utf8.Fault)
  deriving DecidableEq, Repr

def text (files : Files) (path : String) : Except Fault String :=
  match files.read path with
  | .error fault => .error (.file fault)
  | .ok bytes =>
    match Utf8.decode bytes with
    | .error fault => .error (.encoding fault)
    | .ok text => .ok (LineEnding.unify text)

variable {α : Type} [Scalar α]

def load (dialect : Dialect) (files : Files) (path : String) : Except Fault (Reading α) :=
  (text files path).map (Reading.ofText dialect)

def report (path : String) (reading : Reading α) : List Log.Entry :=
  Draft.entry .info ("Running slideshow from file '" ++ path ++ "'") :: reading.report

end Slideshow.Source
