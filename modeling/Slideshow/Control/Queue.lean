import Slideshow.Control.Action

/-!
# The queue of messages

Keys, the remote and anyone else put messages at one end; the viewer takes them from the other.

## Main definitions

* `Queue.put`, `Queue.poll`: the two ends.
* `Queue.clear`: takes until nothing comes.
* `Queue.handle`, `Queue.command`: an event of the window and a command of the remote.

## Design notes

A message that counts as nothing looks like the end of the queue to whoever takes it: it ends a
drain, and null ends a clearing, with messages left behind it.
-/

namespace Slideshow

/-- Waiting messages, the oldest first. -/
structure Queue where
  messages : List Json

namespace Queue

def empty : Queue := ⟨[]⟩

def put (message : Json) (q : Queue) : Queue :=
  ⟨q.messages ++ [message]⟩

def poll (q : Queue) : Option Json × Queue :=
  match q.messages with
  | [] => (none, q)
  | message :: messages => (some message, ⟨messages⟩)

/-- Takes messages up to and with the first null. -/
def clear (q : Queue) : Queue :=
  ⟨(q.messages.dropWhile fun m => !(m matches .null)).drop 1⟩

/-- Puts what an event of the window asks for. -/
def handle (e : InputEvent) (q : Queue) : Queue :=
  match Action.ofEvent? e with
  | some a => q.put a.toJson
  | none => q

/-- Puts what a remote command asks for. The answer is whether there is such a command. -/
def command (name : String) (q : Queue) : Bool × Queue :=
  match Action.ofCommand? name with
  | some a => (true, q.put a.toJson)
  | none => (false, q)

end Queue

end Slideshow
