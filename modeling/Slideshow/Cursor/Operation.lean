import Slideshow.Cursor.Value

/-!
# Operations on cursors

All that can be asked of a cursor, as data, so that one can speak of whole sequences of it. An
operation that fails leaves the cursor where its reader gave up, and the next one goes on there.

## Main definitions

* `Cursor.Operation`, `Cursor.Answer`: what a cursor is asked, and what it answers.
* `Cursor.Operation.reader`: the reader of an operation.
* `Cursor.Attempt`: what has come of an operation.
* `Cursor.attempts`: what comes of a sequence of operations.
-/

namespace Slideshow

/-- Whether a text lies ahead, where it stays. -/
def Reader.hasText (text : String) : Reader Bool := fun c => .ok (c.hasText text) c

namespace Cursor

/-- The values that can be read, by themselves or behind an equals sign. -/
inductive ValueKind where
  | number
  | vec
  | quoted
  deriving DecidableEq, Repr

/-- What is asked of a cursor. A count of characters that is not positive asks for nothing. -/
inductive Operation where
  | atEnd
  | peek
  | hasText (text : String)
  | advance
  | advanceBy (count : Int)
  | skipBlanks (newlines : Bool)
  | expect (text : String)
  | word (text : String)
  | value (kind : ValueKind)
  | assigned (kind : ValueKind)
  deriving DecidableEq, Repr

/-- What is answered to an operation. -/
inductive Answer (α : Type) where
  | done
  | truth (holds : Bool)
  | character (x : Option Char)
  | number (x : α)
  | vec (v : Vec α)
  | text (text : String)
  deriving DecidableEq, Repr

/-- What has come of an operation: its answer or its failure, and where the cursor stands then. -/
structure Attempt (α : Type) where
  result : Except Failure (Answer α)
  cursor : Cursor
  deriving Repr

variable {α : Type} [Scalar α]

def ValueKind.reader : ValueKind → Reader (Answer α)
  | .number => do return .number (← Reader.number)
  | .vec => do return .vec (← Reader.vec)
  | .quoted => do return .text (← Reader.quoted)

def Operation.reader : Operation → Reader (Answer α)
  | .atEnd => do return .truth (← Reader.atEnd)
  | .peek => do return .character (← Reader.peek)
  | .hasText text => do return .truth (← Reader.hasText text)
  | .advance => do return .character (some (← Reader.advance))
  | .advanceBy count => do
    Reader.advanceBy count.toNat
    return .done
  | .skipBlanks newlines => do
    Reader.skipBlanks newlines
    return .done
  | .expect text => do
    Reader.expect text
    return .done
  | .word text => do return .truth (← Reader.word text)
  | .value kind => kind.reader
  | .assigned kind => Reader.assigned kind.reader

variable (α)

def Operation.attempt (operation : Operation) (c : Cursor) : Attempt α :=
  match operation.reader c with
  | .ok answer c' => ⟨.ok answer, c'⟩
  | .error e c' => ⟨.error e, c'⟩

/-- What comes of operations one after the other, failed ones among them. -/
def attempts (c : Cursor) : List Operation → List (Attempt α)
  | [] => []
  | operation :: operations =>
    let attempt := operation.attempt α c
    attempt :: attempts attempt.cursor operations

end Cursor

end Slideshow
