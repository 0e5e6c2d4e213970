import Slideshow.Cursor.Value
import Slideshow.Description.Directive

/-!
# Written descriptions

Descriptions as they are written down: one directive per line, every number with its digits, and
with the spaces, the empty lines and the remarks that may stand between them.

## Main definitions

* `Written.Numeral`, `Written.Pair`, `Written.Quote`: written values.
* `Written.Assignment`, `Written.Block`, `Written.Compact`: what follows a keyword.
* `Written.Directive`, `Written.Line`, `Written.Description`: directives, lines and descriptions.

Each of them has its `text`, and the directives and what they consist of a `meaning`.

## Design notes

What cannot be written is no value of these types: a numeral has a digit, a quoted text has no
quotation mark in it, a remark has none of the letters that keywords begin with, and where a number
would run on into the next one there is a space between them.
-/

namespace Slideshow.Written

open Reader

def spaces (n : Nat) : List Char :=
  List.replicate n ' '

/-- Spaces and line ends. -/
structure Blanks where
  chars : List Char
  blank : ∀ x ∈ chars, x = ' ' ∨ x = '\n'

/-- Characters at which no keyword begins. -/
structure Remark where
  chars : List Char
  plain : ∀ x ∈ chars, x ∉ ['s', 'i', 'c']

/-! ### Values -/

/-- A number: digits, with a minus sign or without, and with a point and more digits or without. -/
structure Numeral where
  negative : Bool
  whole : List Char
  places : Option (List Char)
  whole_ne_nil : whole ≠ []
  whole_digits : ∀ x ∈ whole, isDigit x = true
  places_digits : ∀ x ∈ places.getD [], isDigit x = true

structure Pair where
  x : Numeral
  before : Nat
  after : Nat
  y : Numeral

structure Quote where
  content : String
  plain : '"' ∉ content.toList

namespace Numeral

/-- The point and the digits behind it. -/
def fraction : Option (List Char) → List Char
  | none => []
  | some places => '.' :: places

def sign (negative : Bool) : List Char :=
  if negative then ['-'] else []

def text (n : Numeral) : List Char :=
  sign n.negative ++ (n.whole ++ fraction n.places)

def value {α : Type} [Scalar α] (n : Numeral) : α :=
  let magnitude : α := addPlaces (wholeOf n.whole) (n.places.getD [])
  if n.negative then -magnitude else magnitude

end Numeral

namespace Pair

def text (p : Pair) : List Char :=
  p.x.text ++ (spaces p.before ++ ',' :: (spaces p.after ++ p.y.text))

def value {α : Type} [Scalar α] (p : Pair) : Vec α :=
  ⟨p.x.value, p.y.value⟩

end Pair

def Quote.text (q : Quote) : List Char :=
  '"' :: (q.content.toList ++ ['"'])

/-! ### Assignments and blocks -/

/-- An equals sign and a value, with the spaces before, between and behind them. -/
structure Assignment (Value : Type) where
  before : Nat
  after : Nat
  value : Value
  behind : Nat

def Assignment.text {Value : Type} (valueText : Value → List Char) (a : Assignment Value) :
    List Char :=
  spaces a.before ++ '=' :: (spaces a.after ++ (valueText a.value ++ spaces a.behind))

/-- A property of a block. -/
inductive Setting where
  | position (assignment : Assignment Pair)
  | size (assignment : Assignment Pair)
  | start (assignment : Assignment Numeral)
  | duration (assignment : Assignment Numeral)
  | fadeIn (assignment : Assignment Numeral)
  | fadeOut (assignment : Assignment Numeral)

namespace Setting

def key : Setting → Key
  | .position _ => .position
  | .size _ => .size
  | .start _ => .start
  | .duration _ => .duration
  | .fadeIn _ => .fadeIn
  | .fadeOut _ => .fadeOut

def text : Setting → List Char
  | .position a | .size a => a.text Pair.text
  | .start a | .duration a | .fadeIn a | .fadeOut a => a.text Numeral.text

def meaning {α : Type} [Scalar α] : Setting → Property α
  | .position a => .position a.value.value
  | .size a => .size a.value.value
  | .start a => .start a.value.value
  | .duration a => .duration a.value.value
  | .fadeIn a => .fadeIn a.value.value
  | .fadeOut a => .fadeOut a.value.value

end Setting

/-- A property on its line, and blanks before the next one. -/
structure PropertyLine where
  setting : Setting
  blanks : Blanks

def PropertyLine.text (line : PropertyLine) : List Char :=
  line.setting.key.spelling.toList ++ (line.setting.text ++ '\n' :: line.blanks.chars)

structure Block where
  before : Blanks
  inside : Blanks
  lines : List PropertyLine
  behind : Nat

def Block.text (b : Block) : List Char :=
  b.before.chars ++ '\x7b' :: (b.inside.chars ++
    (b.lines.flatMap PropertyLine.text ++ '\x7d' :: spaces b.behind))

def Block.meaning {α : Type} [Scalar α] (b : Block) : List (Property α) :=
  b.lines.map (·.setting.meaning)

structure Framed where
  before : Nat
  name : Quote
  block : Block

def Framed.text (f : Framed) : List Char :=
  spaces f.before ++ (f.name.text ++ f.block.text)

/-! ### Directives -/

structure Slide where
  before : Nat
  name : Quote
  between : Nat
  seconds : Numeral
  behind : Nat

def Slide.text (s : Slide) : List Char :=
  spaces s.before ++ (s.name.text ++ (spaces s.between ++ (s.seconds.text ++ spaces s.behind)))

variable (α : Type) [Scalar α]

/-- A number that is counted with. Hence it has to be finite. -/
structure Counted extends Numeral where
  integer : Int
  truncate_value : Scalar.truncate (toNumeral.value : α) = .ok integer

/-- A column and the letter of a row. -/
structure Spot where
  column : Counted α
  row : Char
  letter : 'a' ≤ row ∧ row ≤ 'z'

/-- A numbered picture with its size and the places of the picture and of its caption. -/
structure Compact where
  numberGap : Nat
  number : Counted α
  sizeGap : Nat
  size : Pair
  imageGap : Nat
  image : Spot α
  captionGap : Nat
  caption : Spot α
  behind : Nat
  number_apart : 0 < numberGap ∨ number.negative = true
  size_apart : 0 < sizeGap ∨ size.x.negative = true
  image_apart : 0 < imageGap ∨ image.column.negative = true

/-- A directive other than the one that sets the screen. -/
inductive Directive where
  | imageDir (path : Assignment Quote)
  | captionDir (path : Assignment Quote)
  | slide (slide : Slide)
  | compact (compact : Compact α)
  | image (framed : Framed)
  | customImage (framed : Framed)

/-- A directive on its line, and a remark before the next one. -/
structure Line where
  directive : Directive α
  remark : Remark

/-- A description, which begins with the size of the screen. -/
structure Description where
  lead : Remark
  screen : Assignment Pair
  remark : Remark
  lines : List (Line α)
  screen_ne_zero : Scalar.isZero (screen.value.x.value : α) = false ∧
    Scalar.isZero (screen.value.y.value : α) = false

variable {α}

namespace Spot

def text (s : Spot α) : List Char :=
  s.column.text ++ [s.row]

def meaning (s : Spot α) : Cell :=
  ⟨s.column.integer - 1, (s.row.toNat : Int) - 97⟩

end Spot

namespace Compact

def text (c : Compact α) : List Char :=
  spaces c.numberGap ++ (c.number.text ++ (spaces c.sizeGap ++ (c.size.text ++
    (spaces c.imageGap ++ (c.image.text ++ (spaces c.captionGap ++
      (c.caption.text ++ spaces c.behind)))))))

def meaning (c : Compact α) : Slideshow.Directive α :=
  .compact c.number.integer c.size.value c.image.meaning c.caption.meaning

end Compact

namespace Directive

def keyword : Directive α → Keyword
  | .imageDir _ => .imageDir
  | .captionDir _ => .captionDir
  | .slide _ => .slide
  | .compact _ => .image
  | .image _ => .image
  | .customImage _ => .customImage

/-- What follows the keyword, up to the end of the line. -/
def text : Directive α → List Char
  | .imageDir path | .captionDir path => path.text Quote.text
  | .slide s => s.text
  | .compact c => c.text
  | .image f | .customImage f => f.text

def meaning : Directive α → Slideshow.Directive α
  | .imageDir path => .imageDir path.value.content
  | .captionDir path => .captionDir path.value.content
  | .slide s => .slide s.name.content s.seconds.value
  | .compact c => c.meaning
  | .image f => .image f.name.content f.block.meaning
  | .customImage f => .customImage f.name.content f.block.meaning

end Directive

def Line.text (line : Line α) : List Char :=
  line.directive.keyword.spelling.toList ++ (line.directive.text ++ '\n' :: line.remark.chars)

namespace Description

def text (d : Description α) : List Char :=
  d.lead.chars ++ (Keyword.screen.spelling.toList ++ (d.screen.text Pair.text ++
    '\n' :: (d.remark.chars ++ d.lines.flatMap Line.text)))

def meaning (d : Description α) : List (Slideshow.Directive α) :=
  .screen d.screen.value.value :: d.lines.map (·.directive.meaning)

end Description

/-- Numbers are kept apart by a space or by a sign. -/
example : ∃ d : Description Rat,
    String.ofList d.text = "screen=4,3\n# \nimage-7 2,2-1a3b\n" :=
  let digit (negative : Bool) (x : Char) (h : isDigit x = true) : Numeral :=
    ⟨negative, [x], none, by simp, by simpa using h, by simp⟩
  let whole (x : Rat) {n : Int} (h : Rounding.truncate x = n) : Scalar.truncate x = .ok n :=
    congrArg Except.ok h
  let number : Counted Rat := ⟨digit true '7' (by decide), -7, whole _ (by decide +kernel)⟩
  let image : Spot Rat :=
    ⟨⟨digit true '1' (by decide), -1, whole _ (by decide +kernel)⟩, 'a', by decide⟩
  let caption : Spot Rat :=
    ⟨⟨digit false '3' (by decide), 3, whole _ (by decide +kernel)⟩, 'b', by decide⟩
  let two := digit false '2' (by decide)
  let compact : Compact Rat :=
    ⟨0, number, 1, ⟨two, 0, 0, two⟩, 0, image, 0, caption, 0, by decide, by decide, by decide⟩
  let size : Pair := ⟨digit false '4' (by decide), 0, 0, digit false '3' (by decide)⟩
  ⟨⟨⟨[], by simp⟩, ⟨0, 0, size, 0⟩, ⟨['#', ' ', '\n'], by simp⟩,
    [⟨.compact compact, ⟨[], by simp⟩⟩], by decide +kernel⟩, by decide +kernel⟩

end Slideshow.Written
