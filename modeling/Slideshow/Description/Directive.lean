import Slideshow.Number.Vec
import Slideshow.Timeline.Item

/-!
# Directives

The phrases of the description language. A description sets the screen, whose size is the unit of
all places, and then lists the pictures of the show.

## Main definitions

* `Keyword`: the word that a directive begins with.
* `Key`, `Property`: a property of a block and its value.
* `Cell`: a place on the grid of unit squares.
* `Directive`: a directive with all that it says.
* `Phrase`: a directive, or a character that is passed over.
-/

namespace Slideshow

/-- The word that a directive begins with. -/
inductive Keyword where
  | screen
  | imageDir
  | captionDir
  | slide
  | customImage
  | image
  deriving DecidableEq, Repr

namespace Keyword

def spelling : Keyword → String
  | .screen => "screen"
  | .imageDir => "imageDir"
  | .captionDir => "captionDir"
  | .slide => "slide"
  | .customImage => "customimage"
  | .image => "image"

/-- All keywords, in the order in which they are looked for. -/
def all : List Keyword :=
  [.screen, .imageDir, .captionDir, .slide, .customImage, .image]

end Keyword

/-- The name of a property in a block. -/
inductive Key where
  | position
  | size
  | start
  | duration
  | fadeIn
  | fadeOut
  deriving DecidableEq, Repr

namespace Key

def spelling : Key → String
  | .position => "position"
  | .size => "size"
  | .start => "start"
  | .duration => "duration"
  | .fadeIn => "fadeIn"
  | .fadeOut => "fadeOut"

/-- All keys, in the order in which they are looked for. -/
def all : List Key :=
  [.position, .size, .start, .duration, .fadeIn, .fadeOut]

end Key

/-- A property of a block with its value. Places are in units of the screen. -/
inductive Property (α : Type) where
  | position (value : Vec α)
  | size (value : Vec α)
  | start (value : α)
  | duration (value : α)
  | fadeIn (value : α)
  | fadeOut (value : α)
  deriving DecidableEq, Repr

/-- The lower left corner of a unit square, column and row counted from zero. -/
structure Cell where
  column : Int
  row : Int
  deriving DecidableEq, Repr

/-- A directive. Places are in units of the screen. -/
inductive Directive (α : Type) where
  /-- The size of the screen. -/
  | screen (size : Vec α)
  /-- What stands before the names of pictures from here on. -/
  | imageDir (path : String)
  /-- What stands before the names of captions from here on. -/
  | captionDir (path : String)
  /-- A picture of full height that follows the ones before it. -/
  | slide (name : String) (seconds : α)
  /-- A numbered picture with its caption, which follow the ones before them. -/
  | compact (number : Int) (size : Vec α) (image caption : Cell)
  /-- A picture with its properties. -/
  | image (name : String) (block : List (Property α))
  /-- A picture outside the directory of pictures, with its properties. -/
  | customImage (name : String) (block : List (Property α))
  deriving DecidableEq, Repr

/-- The properties of a picture with a block. -/
def Directive.block? {α : Type} : Directive α → Option (List (Property α))
  | .image _ block | .customImage _ block => some block
  | _ => none

/-- What a description is made of between its blanks: directives, and single characters that none
begins with. A skipped character has its place. -/
inductive Phrase (α : Type) where
  | directive (d : Directive α)
  | skipped (x : Char) (line column : Nat)
  deriving DecidableEq, Repr

def Phrase.setsScreen {α : Type} : Phrase α → Bool
  | .directive (.screen _) => true
  | _ => false

namespace Cell

variable {α : Type} [Scalar α]

/-- The corner in scalars. -/
def toVec (c : Cell) : Vec α :=
  ⟨Scalar.ofInt c.column, Scalar.ofInt c.row⟩

end Cell

namespace Property

variable {α : Type}

def set (item : Item α) : Property α → Item α
  | .position value => { item with position := value }
  | .size value => { item with size := value }
  | .start value => { item with start := value }
  | .duration value => { item with duration := value }
  | .fadeIn value => { item with fadeIn := value }
  | .fadeOut value => { item with fadeOut := value }

/-- The item of a block. Of repeated properties the last one counts. -/
def itemOf [Scalar α] (source : String) (block : List (Property α)) : Item α :=
  block.foldl set {
    source := source
    position := ⟨0, 0⟩
    size := ⟨0, 0⟩
    start := Item.defaultStart
    duration := Item.defaultDuration
    fadeIn := Item.defaultFade
    fadeOut := Item.defaultFade }

end Property

end Slideshow
