import Slideshow.Description.Draft
import Slideshow.Description.Reader

/-!
# Reading a description

A description is read phrase by phrase until it ends or a phrase fails. What the phrases mean is a
matter of drafts: the draft of a reading is what its phrases amount to, in their order.

## Main definitions

* `Reading`: the phrases of a description and how the reading ended.
* `Reading.ofText`: the reading of a text.
* `Reading.draft`, `Reading.report`: what the phrases amount to and what is reported of them.
* `Reading.parse`: the draft of a text, or the failure.
-/

namespace Slideshow

/-- The phrases that were read, the failure that ended the reading if one did, and the place where
it ended. -/
structure Reading (α : Type) where
  phrases : List (Phrase α)
  failure : Option Failure
  cursor : Cursor

namespace Reading

variable {α : Type} [Scalar α]

/-- Reads on from a cursor after the phrases in `done`, the last of which comes first. -/
def readFrom (dialect : Dialect) (done : List (Phrase α)) (screenSet : Bool) (c : Cursor) :
    Reading α :=
  match _h : dialect.phrase screenSet c with
  | .error e c' => ⟨done.reverse, some e, c'⟩
  | .ok none c' => ⟨done.reverse, none, c'⟩
  | .ok (some phrase) c' =>
    readFrom dialect (phrase :: done) (screenSet || phrase.setsScreen) c'
termination_by c.rest.length
decreasing_by exact dialect.advances_phrase _ _ _ _ _h rfl

/-- The reading of a text that a draft is continued with. -/
def resume (dialect : Dialect) (draft : Draft α) (text : String) : Reading α :=
  readFrom dialect [] draft.screen.isSome (.ofText text)

def ofText (dialect : Dialect) (text : String) : Reading α :=
  resume dialect .initial text

/-- What the phrases amount to. Phrases before a failure count, the one that failed does not. -/
def draft (r : Reading α) : Draft α :=
  Draft.initial.takeAll r.phrases

def report (r : Reading α) : List Log.Entry :=
  Draft.initial.reportAll r.phrases

/-- The draft that a text describes, or the failure in it. -/
def parse (dialect : Dialect) (text : String) : Except Failure (Draft α) :=
  let r := ofText dialect text
  match r.failure with
  | some e => .error e
  | none => .ok r.draft

end Reading

end Slideshow
