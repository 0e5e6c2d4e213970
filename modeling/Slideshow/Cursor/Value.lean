import Slideshow.Cursor.Reader
import Slideshow.Number.Vec

/-!
# Readers of values

Decimal numbers, pairs of them and quoted texts, and the three of them after an equals sign.

## Main definitions

* `Reader.number`: digits with an optional minus sign and an optional fraction.
* `Reader.vec`: two numbers with a comma between them.
* `Reader.quoted`: characters up to the next quotation mark.
* `Reader.assigned`: a value after an equals sign.
* `Reader.integer`: a number without its fraction.

## Design notes

A number is summed up digit by digit in the order of the text, so that its last bit is the same
wherever it is read. The sign is applied last, and so a zero may carry one.
-/

namespace Slideshow.Reader

variable {α β : Type} [Scalar α]

def isDigit (x : Char) : Bool :=
  '0' ≤ x && x ≤ '9'

theorem toNat_of_isDigit {d : Char} (hd : isDigit d = true) : 48 ≤ d.toNat ∧ d.toNat ≤ 57 := by
  obtain ⟨hlow, hhigh⟩ := Bool.and_eq_true_iff.mp hd
  exact ⟨UInt32.le_iff_toNat_le.mp (of_decide_eq_true hlow),
    UInt32.le_iff_toNat_le.mp (of_decide_eq_true hhigh)⟩

def digitValue (d : Char) : α :=
  Scalar.ofInt ((d.toNat : Int) - 48)

def wholeOf (digits : List Char) : α :=
  digits.foldl (fun value d => value * 10 + digitValue d) 0

/-- `value` with the digits after the point added, each a tenth of the place before it. -/
def addPlaces (value : α) (places : List Char) : α :=
  (places.foldl (fun (value, unit) d => (value + digitValue d * unit, unit * Scalar.tenth))
    (value, Scalar.tenth)).1

/-- Reads the digits after a point, and none where there is no point. -/
def placesAfter (pointed : Bool) : Reader (List Char) :=
  if pointed then span isDigit else pure []

/-- Reads a decimal number. Whatever else follows the digits is left ahead. -/
def number : Reader α := do
  let negative ← accept '-'
  let digits ← span isDigit
  require (!digits.isEmpty) .noNumber
  let pointed ← accept '.'
  let places ← placesAfter pointed
  let magnitude : α := addPlaces (wholeOf digits) places
  return if negative then -magnitude else magnitude

/-- Reads two numbers with a comma and any spaces between them. -/
def vec : Reader (Vec α) := do
  let x ← number
  skipBlanks false
  expect ","
  skipBlanks false
  let y ← number
  return ⟨x, y⟩

/-- Reads a text in quotation marks. It may run over line ends, and nothing in it is escaped. -/
def quoted : Reader String := do
  expect "\""
  let text ← span (· != '"')
  expect "\""
  return String.ofList text

/-- Reads a value after an equals sign, with the spaces before and behind it. -/
def assigned (value : Reader β) : Reader β := do
  skipBlanks false
  expect "="
  skipBlanks false
  let b ← value
  skipBlanks false
  return b

variable (α) in
/-- Reads a number and drops its fraction. -/
def integer : Reader Int := do
  let x : α ← number
  ofExcept (Scalar.truncate x)

/-! ### Readers of values only move forward -/

theorem Forward.placesAfter (pointed : Bool) : Forward (placesAfter pointed) := by
  unfold Reader.placesAfter
  split
  · exact .span _
  · exact .pure _

theorem Forward.number : Forward (number : Reader α) :=
  .bind (.accept _) fun _ => .bind (.span _) fun _ => .bind (.require _ _) fun _ =>
    .bind (.accept _) fun _ => .bind (.placesAfter _) fun _ => .pure _

theorem Forward.vec : Forward (vec : Reader (Vec α)) :=
  .bind .number fun _ => .bind (.skipBlanks _) fun _ => .bind (.expect _) fun _ =>
    .bind (.skipBlanks _) fun _ => .bind .number fun _ => .pure _

theorem Forward.quoted : Forward quoted :=
  .bind (.expect _) fun _ => .bind (.span _) fun _ => .bind (.expect _) fun _ => .pure _

theorem Forward.assigned {value : Reader β} (h : Forward value) : Forward (assigned value) :=
  .bind (.skipBlanks _) fun _ => .bind (.expect _) fun _ => .bind (.skipBlanks _) fun _ =>
    .bind h fun _ => .bind (.skipBlanks _) fun _ => .pure _

theorem Forward.integer : Forward (integer α) :=
  .bind .number fun _ => .ofExcept _

end Slideshow.Reader
