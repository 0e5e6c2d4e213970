import Slideshow.Text.Blank
import Slideshow.Text.WordChar

/-!
# Filling lines

A paragraph set in lines of a limited width. Each line takes as much as it can.

## Main definitions

* `Filling.pieces`: a paragraph cut where a line may end.
* `Filling.fill`: pieces put into lines.
* `Filling.lines`: both together.

## Design notes

A line may end at a blank, which is dropped there, behind a hyphen within a word, and on both sides
of a dash, which is two or more hyphens between words. A piece too long for any line is cut where
the line is full, behind a hyphen if it can be. Only the blanks of ASCII separate words; others are
characters of a word, but a piece of nothing but blanks is dropped all the same at the end of a
line.
-/

namespace Slideshow.Filling

/-- What a line is made of. -/
abbrev Piece := List Char

/-! ### Cutting -/

/-- A blank that separates words. -/
def isSpace (c : Char) : Bool :=
  c == ' ' || ('\t' ≤ c && c ≤ '\r')

/-- A paragraph with one space for each run of blanks. `spaced` says whether a space was the last
character. -/
def joinSpaces (spaced : Bool) : List Char → List Char
  | [] => []
  | c :: rest =>
    if isSpace c then if spaced then joinSpaces true rest else ' ' :: joinSpaces true rest
    else c :: joinSpaces false rest

/-- A text without the blanks at its ends. -/
def trim (text : List Char) : List Char :=
  ((text.dropWhile Blank.isBlank).reverse.dropWhile Blank.isBlank).reverse

/-- A character that a dash can follow. -/
def isBeforeDash (c : Char) : Bool :=
  WordChar.isWordChar c || "!\"'&.,?".contains c

/-- Whether a dash stands between the characters before, the last one first, and a word. -/
def dashAt (before rest : List Char) : Bool :=
  let behind := rest.dropWhile (· == '-')
  before.head?.any isBeforeDash && behind.length + 2 ≤ rest.length &&
    behind.head?.any WordChar.isWordChar

/-- Whether letters stand before a hyphen, given the characters before it, the last one first. -/
def lettersBefore : List Char → Bool
  | a :: '-' :: b :: _ => WordChar.isLetter a && WordChar.isLetter b
  | a :: b :: _ => WordChar.isLetter a && WordChar.isLetter b
  | _ => false

/-- Whether letters stand behind a hyphen, given the characters behind it. -/
def lettersBehind : List Char → Bool
  | a :: '-' :: b :: _ => WordChar.isLetter a && WordChar.isLetter b
  | a :: b :: _ => WordChar.isLetter a && WordChar.isLetter b
  | _ => false

/-- Whether a line may end behind what was read, because that is a hyphen between letters. -/
def hyphenAt (before rest : List Char) : Bool :=
  match before with
  | '-' :: before => lettersBefore before && lettersBehind rest
  | _ => false

/-- What a piece is. -/
inductive Kind where
  | space
  | dash
  | word
  deriving DecidableEq, Repr

/-- The kind of the piece that begins with `c`. -/
def Kind.starting (before : List Char) (c : Char) (rest : List Char) : Kind :=
  if isSpace c then .space else if dashAt before (c :: rest) then .dash else .word

/-- Whether `c` belongs to a piece of which `length` characters were read. -/
def Kind.continues (kind : Kind) (length : Nat) (before : List Char) (c : Char)
    (rest : List Char) : Bool :=
  match kind with
  | .space => isSpace c
  | .dash => c == '-'
  | .word =>
    !isSpace c && !(2 ≤ length && hyphenAt before (c :: rest)) && !dashAt before (c :: rest)

/-- Cuts what follows the characters `before`, the last of them first, into pieces. Of the present
piece, `piece` was read. -/
def cut (kind : Kind) (before : List Char) (piece : Piece) : List Char → List Piece
  | [] => [piece.reverse]
  | c :: rest =>
    if kind.continues piece.length before c rest then
      cut kind (c :: before) (c :: piece) rest
    else piece.reverse :: cut (.starting before c rest) (c :: before) [c] rest

def pieces : List Char → List Piece
  | [] => []
  | c :: rest => cut (.starting [] c rest) [c] [c] rest

/-! ### Filling -/

/-- Pieces without a blank one at the front. -/
def dropBlank : List Piece → List Piece
  | [] => []
  | piece :: rest => if piece.all Blank.isBlank then rest else piece :: rest

/-- The line of some pieces, the last of them first. That one is dropped if it is blank, and nothing
makes no line. -/
def finish (line : List Piece) : List String :=
  match dropBlank line with
  | [] => []
  | line => [String.ofList line.reverse.flatten]

/-- How much of a piece goes into too little room: all up to the last hyphen that fits and has
something else before it, or as much as fits. -/
def cutLength (room : Nat) (piece : Piece) : Nat :=
  match (piece.take room).reverse.dropWhile (· != '-') with
  | [] => room
  | hyphen :: before => if before.all (· == '-') then room else (hyphen :: before).length

/-- Something is cut off wherever there is room. -/
theorem cutLength_pos {room : Nat} (h : 0 < room) (piece : Piece) : 0 < cutLength room piece := by
  unfold cutLength
  split
  · exact h
  · split <;> simp [h]

/-- The number of characters on a line. -/
def used (line : List Piece) : Nat :=
  line.flatten.length

/-- How much there is to do about pieces. -/
def load (pieces : List Piece) : Nat :=
  used pieces + pieces.length

/-- What there is to do about a piece and others behind it. -/
theorem load_cons (piece : Piece) (rest : List Piece) :
    load (piece :: rest) = piece.length + 1 + load rest := by
  simp only [load, used, List.flatten_cons, List.length_append, List.length_cons]; omega

/-- Dropping a piece leaves no more to do. -/
theorem load_dropBlank_le (pieces : List Piece) : load (dropBlank pieces) ≤ load pieces := by
  cases pieces with
  | nil => exact Nat.le_refl _
  | cons piece rest =>
    simp only [dropBlank]
    split
    · rw [load_cons]; omega
    · exact Nat.le_refl _

/-- The room on a line. A line has room for a character at least. -/
def room (width : Nat) (line : List Piece) : Nat :=
  if width = 0 then 1 else width - used line

/-- There is room on an empty line. -/
theorem room_nil_pos (width : Nat) : 0 < room width [] := by
  simp only [room, used, List.flatten_nil, List.length_nil]; split <;> omega

/-- Puts pieces behind those of the present line, the last of which comes first. -/
def fill (width : Nat) (line : List Piece) : List Piece → List String
  | [] => finish line
  | piece :: rest =>
    if used line + piece.length ≤ width then fill width (piece :: line) rest
    else if width < piece.length then
      let count := cutLength (room width line) piece
      finish (piece.take count :: line) ++ fill width [] (dropBlank (piece.drop count :: rest))
    else finish line ++ fill width [] (dropBlank (piece :: rest))
termination_by pieces => 2 * load pieces + line.length
decreasing_by
  · rw [load_cons, List.length_cons]; omega
  · have h := load_dropBlank_le (piece.drop (cutLength (room width line) piece) :: rest)
    rw [load_cons, List.length_drop] at h
    rw [load_cons, List.length_nil]
    cases line with
    | nil => have := cutLength_pos (room_nil_pos width) piece; omega
    | cons => rw [List.length_cons]; omega
  · have h := load_dropBlank_le (piece :: rest)
    cases line with
    | nil => simp only [used, List.flatten_nil, List.length_nil] at *; omega
    | cons => rw [List.length_cons, List.length_nil]; omega

/-- A paragraph in lines of at most `width` characters. -/
def lines (width : Nat) (paragraph : String) : List String :=
  fill width [] (pieces (trim (joinSpaces false paragraph.toList)))

end Slideshow.Filling
