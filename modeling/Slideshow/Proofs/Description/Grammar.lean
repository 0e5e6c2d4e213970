import Slideshow.Proofs.Description.Values

/-!
# The grammar of descriptions

What a text consists of if it is a description: blanks, single characters that are skipped, and
clauses, which are keywords with what belongs to them. Where one of them ends depends on what
follows it, and so does which of them may stand there.

## Main definitions

* `Grammar.lineCloses`: a line ends behind an assignment.
* `Grammar.Block`, `Grammar.Compact`, `Grammar.Clause`: what is written, with its `text` and its
  `meaning`.
* `Grammar.Segment`, `Grammar.Fit`: the parts of a description, in their order.

## Design notes

Nothing is said here about how a text is read. Blanks behind a clause are parts of their own, also
those on its last line.
-/

namespace Slideshow

namespace Written

def Assignment.Ends {Value : Type} (valueEnds : Value → List Char → Prop) (a : Assignment Value)
    (rest : List Char) : Prop :=
  valueEnds a.value (spaces a.behind ++ rest)

def Setting.Ends : Setting → List Char → Prop
  | .position a | .size a => a.Ends Pair.Ends
  | .start a | .duration a | .fadeIn a | .fadeOut a => a.Ends Numeral.Ends

end Written

namespace Grammar

open Written

/-- Spaces and line ends, with a carriage return or without. -/
def isBlank : List Char → Bool
  | [] => true
  | ' ' :: rest => isBlank rest
  | '\n' :: rest => isBlank rest
  | '\r' :: '\n' :: rest => isBlank rest
  | _ => false

/-- But for spaces, the line or the text ends here or, in a block, the block does. -/
def lineCloses (inBlock : Bool) : List Char → Bool
  | [] => true
  | ' ' :: rest => lineCloses inBlock rest
  | '\n' :: _ => true
  | '\r' :: '\n' :: _ => true
  | '\x7d' :: _ => inBlock
  | _ => false

/-- A whole word stands at the beginning of what follows. -/
def BeginsWord (word : String) (text : List Char) : Prop :=
  ∃ rest, text = word.toList ++ rest ∧ Avoids Cursor.isWordChar rest

structure Blanks where
  chars : List Char
  blank : isBlank chars = true

/-! ### Blocks -/

/-- A property of a block, with the blanks before it. -/
structure Entry where
  blanks : Blanks
  setting : Setting

def Entry.text (e : Entry) : List Char :=
  e.blanks.chars ++ (e.setting.key.spelling.toList ++ e.setting.text)

/-- Every entry ends before the next one, and in a strict dialect its line does. -/
def EntriesFit (strict : Bool) : List Entry → List Char → Prop
  | [], _ => True
  | e :: entries, rest =>
    e.setting.Ends (entries.flatMap Entry.text ++ rest) ∧
      (strict = true → lineCloses true (entries.flatMap Entry.text ++ rest) = true) ∧
      EntriesFit strict entries rest

structure Block where
  before : Blanks
  entries : List Entry
  closing : Blanks

namespace Block

/-- What closes a block. -/
def close (b : Block) : List Char :=
  b.closing.chars ++ ['\x7d']

def text (b : Block) : List Char :=
  b.before.chars ++ '\x7b' :: (b.entries.flatMap Entry.text ++ b.close)

def Fits (strict : Bool) (b : Block) (rest : List Char) : Prop :=
  EntriesFit strict b.entries (b.close ++ rest)

def meaning {α : Type} [Scalar α] (b : Block) : List (Property α) :=
  b.entries.map (·.setting.meaning)

end Block

/-- A name and a block. -/
structure Framed where
  before : Nat
  name : Quote
  block : Block

def Framed.text (f : Framed) : List Char :=
  spaces f.before ++ (f.name.text ++ f.block.text)

/-! ### Compact images -/

variable (α : Type) [Scalar α]

/-- A column and the row, which any character may stand for that the column ends at. -/
structure Spot where
  column : Counted α
  row : Char
  column_ends : column.Ends [row]

variable {α}

def Spot.text (s : Spot α) : List Char :=
  s.column.text ++ [s.row]

def Spot.meaning (s : Spot α) : Cell :=
  ⟨s.column.integer - 1, (s.row.toNat : Int) - 97⟩

variable (α)

/-- A numbered picture with its size, its place and the place of its caption. -/
structure Compact where
  numberGap : Nat
  number : Counted α
  sizeGap : Nat
  size : Pair
  imageGap : Nat
  image : Spot α
  captionGap : Nat
  caption : Spot α
  number_ends : number.Ends (spaces sizeGap ++ size.text)
  size_ends : size.Ends (spaces imageGap ++ image.text)

variable {α}

def Compact.text (c : Compact α) : List Char :=
  spaces c.numberGap ++ (c.number.text ++ (spaces c.sizeGap ++ (c.size.text ++
    (spaces c.imageGap ++ (c.image.text ++ (spaces c.captionGap ++ c.caption.text))))))

def Compact.meaning (c : Compact α) : Directive α :=
  .compact c.number.integer c.size.value c.image.meaning c.caption.meaning

/-! ### Clauses -/

variable (α)

/-- A keyword and what belongs to it. -/
inductive Clause where
  | screen (size : Assignment Pair)
  | imageDir (path : Assignment Quote)
  | captionDir (path : Assignment Quote)
  | slide (slide : Slide)
  | compact (compact : Compact α)
  | image (framed : Framed)
  | customImage (framed : Framed)

variable {α}

namespace Clause

def keyword : Clause α → Keyword
  | .screen _ => .screen
  | .imageDir _ => .imageDir
  | .captionDir _ => .captionDir
  | .slide _ => .slide
  | .compact _ => .image
  | .image _ => .image
  | .customImage _ => .customImage

/-- What follows the keyword. -/
def body : Clause α → List Char
  | .screen size => size.text Pair.text
  | .imageDir path | .captionDir path => path.text Quote.text
  | .slide s => s.text
  | .compact c => c.text
  | .image f | .customImage f => f.text

def text (clause : Clause α) : List Char :=
  clause.keyword.spelling.toList ++ clause.body

def meaning : Clause α → Directive α
  | .screen size => .screen size.value.value
  | .imageDir path => .imageDir path.value.content
  | .captionDir path => .captionDir path.value.content
  | .slide s => .slide s.name.content s.seconds.value
  | .compact c => c.meaning
  | .image f => .image f.name.content f.block.meaning
  | .customImage f => .customImage f.name.content f.block.meaning

/-- The body is complete, with `rest` behind it. -/
def Ends (strict : Bool) (rest : List Char) : Clause α → Prop
  | .screen size => size.Ends Pair.Ends rest ∧ (strict = true → lineCloses false rest = true)
  | .imageDir _ | .captionDir _ => strict = true → lineCloses false rest = true
  | .slide s => s.seconds.Ends (spaces s.behind ++ rest)
  | .compact _ => True
  | .image f | .customImage f => f.block.Fits strict rest ∧ lineCloses false rest = true

/-- The screen is set once, with a width and a height, and before anything is shown. -/
def InPlace (screenSet : Bool) : Clause α → Prop
  | .screen size => screenSet = false ∧ Scalar.isZero (size.value.x.value : α) = false ∧
      Scalar.isZero (size.value.y.value : α) = false
  | .imageDir _ | .captionDir _ => True
  | .slide _ | .compact _ | .image _ | .customImage _ => screenSet = true

end Clause

/-! ### Descriptions -/

variable (α)

/-- A part of a description. -/
inductive Segment where
  | blanks (b : Blanks)
  | skipped (x : Char)
  | clause (c : Clause α)

variable {α}

namespace Segment

def text : Segment α → List Char
  | .blanks b => b.chars
  | .skipped x => [x]
  | .clause c => c.text

def meaning? : Segment α → Option (Directive α)
  | .blanks _ | .skipped _ => none
  | .clause c => some c.meaning

def setsScreen : Segment α → Bool
  | .clause (.screen _) => true
  | _ => false

/-- The part may stand where the screen is set or not, with `rest` behind it. A character is skipped
only if it is not blank and none of the keywords stands there. -/
def Fits (strict screenSet : Bool) (rest : List Char) : Segment α → Prop
  | .blanks _ => True
  | .skipped x => Cursor.blankAhead true (x :: rest) = false ∧
      ∀ keyword : Keyword, ¬BeginsWord keyword.spelling (x :: rest)
  | .clause c => Avoids Cursor.isWordChar (c.body ++ rest) ∧ c.Ends strict rest ∧
      c.InPlace screenSet

end Segment

/-- What the parts of a description mean, one after the other. -/
def meanings (segments : List (Segment α)) : List (Directive α) :=
  segments.filterMap Segment.meaning?

/-- Every part fits to what stands before and behind it. -/
def Fit (strict : Bool) : Bool → List (Segment α) → Prop
  | _, [] => True
  | screenSet, segment :: segments =>
    segment.Fits strict screenSet (segments.flatMap Segment.text) ∧
      Fit strict (screenSet || segment.setsScreen) segments

end Grammar

end Slideshow
