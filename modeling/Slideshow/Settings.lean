import Slideshow.Canvas.Display
import Slideshow.Canvas.Surface

/-!
# Settings

What a show takes for granted where it is not told otherwise.

## Main definitions

* `Settings`: the constants with their defaults, and the display.
* `Settings.mode`: what the display is asked for.
-/

namespace Slideshow

/-- The constants of a show, and the display that it is shown on. -/
structure Settings where
  /-- The description that is read where none is named. -/
  slideshowFile : String := "slideshow.txt"
  /-- The soundtrack, which starts anew with every loop. An empty path is silence. -/
  songPath : String := "sounds/song.mp4"
  /-- Whether the window covers the screen. -/
  fullscreen : Bool := true
  /-- The size of a window that does not. -/
  windowedSize : WindowSize := ⟨1280, 360⟩
  /-- The display that gives the window. -/
  display : Display := .ofScreen ⟨1024, 768⟩
  /-- The colour behind all items. -/
  background : Colour := ⟨0, 0, 0⟩
  /-- Whether the overlay is on from the beginning. -/
  showOverlays : Bool := false
  /-- Whether every assignment of a description ends its line. -/
  strictNewlines : Bool := false
  /-- Where the remote listens. -/
  webPort : Int := 8080
  /-- The rank of the least level that is reported. -/
  logLevel : Int := 20
  /-- The file that the log goes to, if any. -/
  logFile : Option String := some "runtime.log"

/-- The window that is asked for: one without any size on the whole screen, or one of the size that
is set. -/
def Settings.mode (s : Settings) (fullscreen : Bool) : Mode :=
  if fullscreen then ⟨⟨0, 0⟩, true⟩ else ⟨s.windowedSize, false⟩

end Slideshow
