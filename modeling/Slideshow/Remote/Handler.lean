import Slideshow.Control.Queue
import Slideshow.Files
import Slideshow.Playback.Overlay
import Slideshow.Remote.Page
import Slideshow.Remote.Request
import Slideshow.Remote.Status
import Slideshow.Remote.Target

/-!
# The remote

The remote answers requests: pages that tell about the show, and commands that are queued for the
viewer.

## Main definitions

* `Response`: what is answered.
* `Remote`: what the remote knows of the show.
* `Remote.respond`: the answer to a request, and the queue after it.
* `Response.report`: what is reported of an answer.

## Design notes

Nothing but the queue can change by a request, and that only where the answer has no content, code
204.
-/

namespace Slideshow

/-- What an answer carries: its type and its bytes. Figures of the host may be added to some content
later on, so that its length is not settled. -/
structure Content where
  type : String
  bytes : List UInt8
  settled : Bool

/-- An answer: its code, the reason given for it, and its content. The code is zero where nothing is
answered. -/
structure Response where
  code : Nat
  reason : String
  content : Option Content

namespace Response

def ok (type : String) (bytes : List UInt8) : Response :=
  ⟨200, "OK", some ⟨type, bytes, true⟩⟩

def ofText (type text : String) : Response :=
  ok type text.toUTF8.toList

def ofJson (value : Json) : Response :=
  ofText "application/json" value.compress

def noContent : Response := ⟨204, "No Content", none⟩

def refuse (code : Nat) (reason : String) : Response := ⟨code, reason, none⟩

def isRefusal (r : Response) : Bool :=
  400 ≤ r.code

/-- What is reported of an answer to a request from this machine. Of none, nothing is. -/
def report (request : Request) (r : Response) : List Log.Entry :=
  let entry (message : String) : Log.Entry := ⟨.debug, .remote, "127.0.0.1 - " ++ message⟩
  let answered := entry ("\"" ++ request.line ++ "\" " ++ toString r.code ++ " -")
  if r.isRefusal then
    [entry ("code " ++ toString r.code ++ ", message " ++ r.reason), answered]
  else if r.code = 0 then []
  else [answered]

end Response

/-- What the remote knows of the show. -/
structure Remote where
  playback : Playback Float
  drawn : Nat
  textures : Nat
  overlay : Bool
  soundtrack : Option String
  fullscreen : Bool
  /-- The bytes of the log file or why they cannot be read, if the log goes to a file. -/
  log : Option (Except FileFault (List UInt8))

namespace Remote

/-- Why a request cannot be answered. -/
inductive Fault where
  | host (fault : Host.Fault)
  | log (fault : FileFault)
  | conversion (kind : NonFinite)
  deriving DecidableEq, Repr

def status (r : Remote) : Status Float where
  started := r.playback.clock.started
  frameTime := r.playback.clock.frameTime
  loopLength := r.playback.timeline.length
  loops := r.playback.loops
  items := r.playback.timeline.size
  drawn := r.drawn
  textures := r.textures
  overlay := r.overlay
  soundtrack := r.soundtrack
  fullscreen := r.fullscreen

/-- The answer with the lines of the overlay. -/
def overlayPage (r : Remote) : Except Fault Response :=
  match Overlay.lines r.playback with
  | .ok lines => .ok (.ofJson (.array (lines.map .string)))
  | .error kind => .error (.conversion kind)

/-- The answer with the summary, to which the host adds its load. -/
def statusPage (r : Remote) : Response :=
  ⟨200, "OK", some ⟨"application/json", r.status.toJson.compress.toUTF8.toList, false⟩⟩

/-- The answer with the log file. A path that is none is a fault of the remote itself. -/
def logPage (r : Remote) : Except Fault Response :=
  match r.log with
  | some (.ok bytes) => .ok (.ok "text/plain; charset=utf-8" bytes)
  | some (.error .zeroByte) => .error (.log .zeroByte)
  | _ => .ok (.refuse 404 "Log file not found")

/-- The answer to a command, and the queue with what it asks for. -/
def command (queue : Queue) (name : String) : Response × Queue :=
  match queue.command name with
  | (true, queue) => (.noContent, queue)
  | (false, queue) => (.refuse 400 "Unknown cmd", queue)

/-- The answer to a target, and the queue after it. -/
def get (r : Remote) (queue : Queue) (t : Target) : Except Fault (Response × Queue) :=
  match t.path with
  | "/" => .ok (.ofText "text/html; charset=utf-8" Page.text, queue)
  | "/overlay" => r.overlayPage.map (·, queue)
  | "/timeline" => .ok (.ofJson (Payload.ofPlayback r.playback).toJson, queue)
  | "/diag" => .ok (r.statusPage, queue)
  | "/log" => r.logPage.map (·, queue)
  | "/action" => .ok (command queue (t.field "cmd"))
  | _ => .ok (.refuse 404 "Not found", queue)

/-- The answer to a request, and the queue after it. -/
def respond (r : Remote) (queue : Queue) (request : Request) : Except Fault (Response × Queue) :=
  match request.accept with
  | .error refusal => .ok (.refuse refusal.code refusal.reason, queue)
  | .ok text =>
    match Target.ofText text with
    | .error fault => .error (.host fault)
    | .ok target => r.get queue target

end Remote

end Slideshow
