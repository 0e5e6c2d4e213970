import Slideshow.Remote.Handler
import Slideshow.Viewer

/-!
# The remote of a viewer

The remote answers requests about a running viewer, at any moment. It looks at the viewer as it is
then, and reaches it through nothing but its queue.

## Main definitions

* `Station`: what the remote looks at besides the viewer.
* `Remote.ofViewer`: what the remote knows of a viewer.
* `Viewer.serve`: a request to the remote of a viewer.
-/

namespace Slideshow

/-- What the remote looks at besides the viewer: the path of the soundtrack, if one is played, and
the log file. -/
structure Station where
  soundtrack : Option String
  log : Option (Except FileFault (List UInt8))

namespace Remote

def ofViewer (station : Station) (v : Viewer Float) : Remote where
  playback := v.playback
  drawn := v.drawn
  textures := v.textures.loaded.length
  overlay := v.overlay
  soundtrack := station.soundtrack
  fullscreen := v.fullscreen
  log := station.log

end Remote

/-- Answers a request about the viewer, unless that fails. -/
def Viewer.serve (station : Station) (request : Request) :
    EStateM Remote.Fault (Viewer Float) Response := do
  let v ← get
  match (Remote.ofViewer station v).respond v.queue request with
  | .ok (response, queue) =>
    set { v with queue := queue }
    return response
  | .error fault => throw fault

end Slideshow
