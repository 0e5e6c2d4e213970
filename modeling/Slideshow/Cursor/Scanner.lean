import Slideshow.Cursor.Operation

/-!
# Scanners

A scanner keeps the whole text, and a place in it by its offset. Whatever it looks at, it looks up
in the text: the next character, the one behind it, a literal text from an offset on, the character
behind a word, and the piece between two offsets.

## Main definitions

* `Scanner`: a place in a text.
* `Scanner.next`, `Scanner.skipBlanks`, `Scanner.gather`: over one character, over blanks, and over
  characters that are summed up on the way.
* `Scan`: the monad of scans, with `Scan.expect`, `Scan.word`, `Scan.number`, `Scan.quoted` and the
  others.
* `Cursor.Operation.scan`: the scan of an operation.
* `Scanner.attempts`: what comes of a sequence of operations.

## Design notes

These are the readers of a cursor once more, on a text that is kept. A cursor drops what is behind
it, so it cannot look anything up at a wrong offset; a scanner can, and that it does not is a matter
of proof.
-/

namespace Slideshow

/-- A place in a text: its offset, and the line and the column counted from one. -/
structure Scanner (text : Array Char) where
  position : Nat
  line : Nat
  column : Nat
  inText : position ≤ text.size

variable {text : Array Char}

namespace Scanner

def ofText (text : String) : Scanner text.toList.toArray :=
  ⟨0, 1, 1, Nat.zero_le _⟩

/-- The place behind the next character. -/
def next (s : Scanner text) (h : s.position < text.size) : Scanner text :=
  if text[s.position] = '\n' then ⟨s.position + 1, s.line + 1, 1, h⟩
  else ⟨s.position + 1, s.line, s.column + 1, h⟩

@[simp] theorem position_next (s : Scanner text) (h : s.position < text.size) :
    (s.next h).position = s.position + 1 := by
  unfold next
  split <;> rfl

/-- Whether `part` stands in a text from an offset on. -/
def hasTextAt (text : Array Char) (part : String) (offset : Nat) : Bool :=
  let part := part.toList.toArray
  offset ≤ text.size && text.extract offset (offset + part.size) == part

/-- Whether the next character is blank: a space, a line feed where `newlines` holds, or a carriage
return with a line feed behind it. -/
def atBlank (newlines : Bool) (s : Scanner text) : Bool :=
  match text[s.position]? with
  | some x => x == ' ' || (newlines && x == '\n') ||
    (x == '\r' && hasTextAt text "\n" (s.position + 1))
  | none => false

/-- The place of the first character from here on that is not blank. -/
def skipBlanks (newlines : Bool) (s : Scanner text) : Scanner text :=
  if h : s.position < text.size then
    if s.atBlank newlines then skipBlanks newlines (s.next h) else s
  else s
termination_by text.size - s.position
decreasing_by rw [position_next]; omega

/-- Sums up characters as long as they have `p`. -/
def gather {β : Type} (p : Char → Bool) (add : β → Char → β) (b : β) (s : Scanner text) :
    β × Scanner text :=
  if h : s.position < text.size then
    if p text[s.position] then gather p add (add b text[s.position]) (s.next h) else (b, s)
  else (b, s)
termination_by text.size - s.position
decreasing_by rw [position_next]; omega

end Scanner

/-- A computation that goes over a text, answers or fails, and leaves the scanner where it came
to. -/
abbrev Scan (text : Array Char) (β : Type) := EStateM Failure (Scanner text) β

namespace Scan

open Reader (isDigit digitValue)

variable {α β : Type} [Scalar α]

def fail (fault : Fault) : Scan text β := fun s =>
  .error (.grammar fault s.line s.column) s

def require (holds : Bool) (fault : Fault) : Scan text Unit :=
  if holds then pure () else fail fault

def position : Scan text Nat := fun s => .ok s.position s

def atEnd : Scan text Bool := fun s => .ok (text.size ≤ s.position) s

/-- The next character, which is not taken. -/
def peek : Scan text (Option Char) := fun s => .ok text[s.position]? s

def hasText (part : String) : Scan text Bool := fun s =>
  .ok (Scanner.hasTextAt text part s.position) s

def advance : Scan text Char := fun s =>
  if h : s.position < text.size then .ok text[s.position] (s.next h) else fail .endOfText s

/-- Takes the next `n` characters. Where there are fewer it takes those and fails. -/
def advanceBy : Nat → Scan text Unit
  | 0 => pure ()
  | n + 1 => do
    let _ ← advance
    advanceBy n

def skipBlanks (newlines : Bool) : Scan text Unit := fun s => .ok () (s.skipBlanks newlines)

def expect (part : String) : Scan text Unit := do
  if ← hasText part then advanceBy part.toList.length else fail (.expected part)

/-- Takes `x` if it is the next character, and says whether it was. -/
def accept (x : Char) : Scan text Bool := do
  if (← peek) = some x then
    let _ ← advance
    return true
  else return false

/-- Whether the character `n` places on continues a word. -/
def isContinued (n : Nat) : Scan text Bool := fun s =>
  .ok (text[s.position + n]?.any Cursor.isWordChar) s

/-- Takes a whole word, and says whether there was one. The character behind it decides. -/
def word (part : String) : Scan text Bool := do
  if ← hasText part then
    if ← isContinued part.toList.length then return false
    advanceBy part.toList.length
    return true
  else return false

def gather (p : Char → Bool) (add : β → Char → β) (b : β) : Scan text β := fun s =>
  let (b, s) := s.gather p add b
  .ok b s

/-- The whole number that some digits denote, and whether there are any. -/
def whole : Scan text (α × Bool) :=
  gather isDigit (fun (value, _) d => (value * 10 + digitValue d, true)) (0, false)

/-- `value` with the digits ahead added, each a tenth of the place before it. -/
def places (value : α) : Scan text (α × α) :=
  gather isDigit (fun (value, unit) d => (value + digitValue d * unit, unit * Scalar.tenth))
    (value, Scalar.tenth)

/-- `value` with the digits behind a point added, if there is one. -/
def fraction (value : α) : Scan text α := do
  if ← accept '.' then return (← places value).1 else return value

def number : Scan text α := do
  let negative ← accept '-'
  let (value, valid) ← whole
  require valid .noNumber
  let magnitude ← fraction value
  return if negative then -magnitude else magnitude

def vec : Scan text (Vec α) := do
  let x ← number
  skipBlanks false
  expect ","
  skipBlanks false
  let y ← number
  return ⟨x, y⟩

/-- The piece of the text between two offsets. -/
def slice (start stop : Nat) : Scan text String :=
  return String.ofList (text.extract start stop).toList

/-- The piece of the text from here up to the first character without `p`. -/
def piece (p : Char → Bool) : Scan text String := do
  let start ← position
  gather p (fun _ _ => ()) ()
  slice start (← position)

def quoted : Scan text String := do
  expect "\""
  let value ← piece (· != '"')
  if ← accept '"' then return value else fail (.expected "\"")

/-- Reads a value behind an equals sign. -/
def assigned (value : Scan text β) : Scan text β := do
  skipBlanks false
  expect "="
  skipBlanks false
  let b ← value
  skipBlanks false
  return b

end Scan

namespace Cursor

variable {α : Type} [Scalar α]

def ValueKind.scan : ValueKind → Scan text (Answer α)
  | .number => do return .number (← Scan.number)
  | .vec => do return .vec (← Scan.vec)
  | .quoted => do return .text (← Scan.quoted)

def Operation.scan : Operation → Scan text (Answer α)
  | .atEnd => do return .truth (← Scan.atEnd)
  | .peek => do return .character (← Scan.peek)
  | .hasText part => do return .truth (← Scan.hasText part)
  | .advance => do return .character (some (← Scan.advance))
  | .advanceBy count => do
    Scan.advanceBy count.toNat
    return .done
  | .skipBlanks newlines => do
    Scan.skipBlanks newlines
    return .done
  | .expect part => do
    Scan.expect part
    return .done
  | .word part => do return .truth (← Scan.word part)
  | .value kind => kind.scan
  | .assigned kind => Scan.assigned kind.scan

end Cursor

namespace Scanner

open Cursor (Answer Operation)

/-- What has come of an operation: its answer or its failure, and the place where it stopped. -/
structure Attempt (text : Array Char) (α : Type) where
  result : Except Failure (Answer α)
  scanner : Scanner text

variable (α : Type) [Scalar α]

def attempt (operation : Operation) (s : Scanner text) : Attempt text α :=
  match operation.scan s with
  | .ok answer s' => ⟨.ok answer, s'⟩
  | .error e s' => ⟨.error e, s'⟩

/-- What comes of operations one after the other, failed ones among them. -/
def attempts (s : Scanner text) : List Operation → List (Attempt text α)
  | [] => []
  | operation :: operations =>
    let attempt := attempt α operation s
    attempt :: attempts attempt.scanner operations

end Scanner

end Slideshow
