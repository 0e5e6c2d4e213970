import Slideshow.Description.Directive
import Slideshow.Log
import Slideshow.Number.Decimal
import Slideshow.Text.Quoted
import Slideshow.Timeline.Basic

/-!
# Drafts

A draft is what the directives read so far amount to: the timeline, and what the directives to come
depend on.

## Main definitions

* `Draft`: the state that directives build.
* `Draft.items`: the items that a directive adds.
* `Draft.obey`, `Draft.take`: the draft after a directive, and after a phrase.
* `Draft.report`: the log entries of a phrase.

## Design notes

Slides and compact images follow one another with a pause between them; `Draft.nextStart` is when
the next one begins. Pictures with a block name their own time and leave that schedule alone.
Without a screen there is no unit for a place, and a directive that shows something adds nothing;
the reader of descriptions refuses such a directive before it comes to that.
-/

namespace Slideshow

/-- What the directives so far amount to. -/
structure Draft (α : Type) where
  timeline : Timeline α
  screen : Option (Vec α)
  imageDir : String
  captionDir : String
  nextStart : α
  index : Nat
  deriving DecidableEq, Repr

namespace Draft

variable {α : Type} [Scalar α]

def initial : Draft α where
  timeline := .empty
  screen := none
  imageDir := ""
  captionDir := ""
  nextStart := 0
  index := 1

/-- The time that a slide takes beyond its seconds, for its fades. -/
def slidePad : α := 2

/-- The pause between one item of the schedule and the next. -/
def pause : α := 1

def compactDuration : α := 12

/-- The number of the compact image that closes the show. -/
def closingNumber : Int := 99

def slideItem (draft : Draft α) (name : String) (seconds : α) : Item α where
  source := draft.imageDir ++ name
  position := ⟨1, 0⟩
  size := ⟨4, 4⟩
  start := draft.nextStart
  duration := seconds + slidePad
  fadeIn := 1
  fadeOut := 1

def compactItem (draft : Draft α) (source : String) (size : Vec α) (cell : Cell) : Item α where
  source := source
  position := cell.toVec
  size := size
  start := draft.nextStart
  duration := compactDuration
  fadeIn := 1
  fadeOut := 1

/-- The file of a compact image, which counts the compact images of the description. -/
def compactSource (draft : Draft α) (number : Int) : String :=
  draft.imageDir ++ toString draft.index ++ "-" ++
    (if number = closingNumber then "last" else toString number) ++ ".jpg"

/-- The file of its caption. -/
def captionSource (draft : Draft α) (number : Int) : String :=
  draft.captionDir ++ (if number = closingNumber then "Last" else toString number) ++ "-C.jpg"

/-- The items that a directive adds, in units of the screen. A caption comes after its image and
so lies beneath it. -/
def rawItems (draft : Draft α) : Directive α → List (Item α)
  | .screen _ | .imageDir _ | .captionDir _ => []
  | .slide name seconds => [draft.slideItem name seconds]
  | .compact number size image caption =>
    [draft.compactItem (draft.compactSource number) size image,
      draft.compactItem (draft.captionSource number) ⟨1, 1⟩ caption]
  | .image name block => [Property.itemOf (draft.imageDir ++ name) block]
  | .customImage name block => [Property.itemOf name block]

/-- The items that a directive adds, in fractions of the screen. -/
def items (draft : Draft α) (d : Directive α) : List (Item α) :=
  match draft.screen with
  | none => []
  | some screen => (draft.rawItems d).map (·.onScreen screen)

/-- The draft after a directive. -/
def obey (draft : Draft α) (d : Directive α) : Draft α :=
  let draft' := { draft with timeline := draft.timeline.addAll (draft.items d) }
  match d with
  | .screen size => { draft' with screen := some size }
  | .imageDir path => { draft' with imageDir := path }
  | .captionDir path => { draft' with captionDir := path }
  | .slide _ seconds => { draft' with nextStart := draft.nextStart + (seconds + slidePad + pause) }
  | .compact .. =>
    { draft' with
      nextStart := draft.nextStart + (compactDuration + pause)
      index := draft.index + 1 }
  | .image .. | .customImage .. => draft'

def take (draft : Draft α) : Phrase α → Draft α
  | .directive d => draft.obey d
  | .skipped .. => draft

def takeAll (draft : Draft α) (phrases : List (Phrase α)) : Draft α :=
  phrases.foldl take draft

/-- An entry about a description. -/
def entry (level : Log.Level) (message : String) : Log.Entry :=
  ⟨level, .description, message⟩

/-- What is reported when a phrase is taken. -/
def report (draft : Draft α) : Phrase α → List Log.Entry
  | .skipped x line column =>
    [entry .debug ("skipping " ++ Quoted.text x.toString ++ " at " ++ toString line ++ ":" ++
      toString column)]
  | .directive (.screen size) =>
    [entry .info ("Screen: " ++ Decimal.general size.x ++ ", " ++ Decimal.general size.y)]
  | .directive (.imageDir path) => [entry .info ("Image directory: " ++ path)]
  | .directive (.captionDir path) => [entry .info ("Caption directory: " ++ path)]
  | .directive d => (draft.items d).map fun item => entry .info ("Loading " ++ item.source)

/-- What is reported when some phrases are taken one after the other. -/
def reportAll (draft : Draft α) (phrases : List (Phrase α)) : List Log.Entry :=
  (phrases.foldl (fun (draft, entries) phrase =>
    (draft.take phrase, entries ++ (draft.report phrase).toArray)) (draft, #[])).2.toList

end Draft

end Slideshow
