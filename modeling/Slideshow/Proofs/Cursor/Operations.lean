import Slideshow.Cursor.Operation

/-!
# What holds of all operations

The readers of values, and with them all operations, are put together from a few readers of literal
text. What holds of those, and of sequences of readers if it holds of their parts, holds of every
operation.

## Main definitions

* `Reader.Compositional`: a property of readers that is passed on in this way.

## Main statements

* `Reader.Compositional.operation`: it is one of every operation.
* `Reader.compositional_forward`: to move the cursor forward is such a property.
* `Cursor.forall_attempts`: what stays true of a cursor that moves forward holds after every attempt
  of a sequence.
-/

namespace Slideshow

namespace Reader

/-- A property of the readers of literal text that sequences inherit from their parts. -/
structure Compositional (P : ∀ {β : Type}, Reader β → Prop) : Prop where
  pure : ∀ {β : Type} (b : β), P (pure b)
  bind : ∀ {β γ : Type} {r : Reader β} {f : β → Reader γ}, P r → (∀ b, P (f b)) → P (r >>= f)
  fail : ∀ {β : Type} (fault : Fault), P (fail fault : Reader β)
  atEnd : P atEnd
  peek : P peek
  hasText : ∀ text, P (hasText text)
  advance : P advance
  skipBlanks : ∀ newlines, P (skipBlanks newlines)
  expect : ∀ text, P (expect text)
  accept : ∀ x, P (accept x)
  span : ∀ p, P (span p)
  word : ∀ text, P (word text)

namespace Compositional

variable {P : ∀ {β : Type}, Reader β → Prop} {α : Type} [Scalar α]

theorem require (h : Compositional P) (holds : Bool) (fault : Fault) :
    P (require holds fault) := by
  cases holds with
  | true => exact h.pure ()
  | false => exact h.fail fault

theorem advanceBy (h : Compositional P) (n : Nat) : P (advanceBy n) := by
  induction n with
  | zero => exact h.pure ()
  | succ n ih => exact h.bind h.advance fun _ => ih

theorem placesAfter (h : Compositional P) (pointed : Bool) : P (placesAfter pointed) := by
  cases pointed with
  | true => exact h.span _
  | false => exact h.pure _

theorem number (h : Compositional P) : P (number : Reader α) :=
  h.bind (h.accept _) fun _ => h.bind (h.span _) fun _ => h.bind (h.require _ _) fun _ =>
    h.bind (h.accept _) fun _ => h.bind (h.placesAfter _) fun _ => h.pure _

theorem vec (h : Compositional P) : P (vec : Reader (Vec α)) :=
  h.bind h.number fun _ => h.bind (h.skipBlanks _) fun _ => h.bind (h.expect _) fun _ =>
    h.bind (h.skipBlanks _) fun _ => h.bind h.number fun _ => h.pure _

theorem quoted (h : Compositional P) : P quoted :=
  h.bind (h.expect _) fun _ => h.bind (h.span _) fun _ => h.bind (h.expect _) fun _ => h.pure _

theorem assigned (h : Compositional P) {β : Type} {value : Reader β} (hvalue : P value) :
    P (assigned value) :=
  h.bind (h.skipBlanks _) fun _ => h.bind (h.expect _) fun _ => h.bind (h.skipBlanks _) fun _ =>
    h.bind hvalue fun _ => h.bind (h.skipBlanks _) fun _ => h.pure _

theorem valueKind (h : Compositional P) (kind : Cursor.ValueKind) :
    P (kind.reader : Reader (Cursor.Answer α)) := by
  cases kind with
  | number => exact h.bind h.number fun _ => h.pure _
  | vec => exact h.bind h.vec fun _ => h.pure _
  | quoted => exact h.bind h.quoted fun _ => h.pure _

/-- What is passed on holds of every operation. -/
theorem operation (h : Compositional P) (operation : Cursor.Operation) :
    P (operation.reader : Reader (Cursor.Answer α)) := by
  cases operation with
  | atEnd => exact h.bind h.atEnd fun _ => h.pure _
  | peek => exact h.bind h.peek fun _ => h.pure _
  | hasText text => exact h.bind (h.hasText text) fun _ => h.pure _
  | advance => exact h.bind h.advance fun _ => h.pure _
  | advanceBy count => exact h.bind (h.advanceBy _) fun _ => h.pure _
  | skipBlanks newlines => exact h.bind (h.skipBlanks newlines) fun _ => h.pure _
  | expect text => exact h.bind (h.expect text) fun _ => h.pure _
  | word text => exact h.bind (h.word text) fun _ => h.pure _
  | value kind => exact h.valueKind kind
  | assigned kind => exact h.assigned (h.valueKind kind)

end Compositional

theorem compositional_forward : Compositional @Forward where
  pure := .pure
  bind := .bind
  fail := .fail
  atEnd := .atEnd
  peek := .peek
  hasText _ _ := ⟨0, rfl⟩
  advance := .advance
  skipBlanks := .skipBlanks
  expect := .expect
  accept := .accept
  span := .span
  word := .word

end Reader

namespace Cursor

variable {α : Type} [Scalar α]

/-- Whether it succeeds or not, an operation moves the cursor forward. -/
theorem Operation.exists_cursor_attempt (operation : Operation) (c : Cursor) :
    ∃ n, (operation.attempt α c).cursor = c.forward n := by
  obtain ⟨n, hn⟩ := Reader.compositional_forward.operation (α := α) operation c
  refine ⟨n, ?_⟩
  rw [← hn, attempt]
  cases operation.reader (α := α) c <;> rfl

/-- Every attempt of a sequence is one at some cursor. -/
theorem exists_of_mem_attempts {c : Cursor} {operations : List Operation} {attempt : Attempt α}
    (h : attempt ∈ c.attempts α operations) :
    ∃ (operation : Operation) (d : Cursor), attempt = operation.attempt α d := by
  induction operations generalizing c with
  | nil => cases h
  | cons operation operations ih =>
    obtain rfl | hmem := List.mem_cons.mp h
    · exact ⟨operation, c, rfl⟩
    · exact ih hmem

/-- What stays true of a cursor that moves forward holds after every attempt. -/
theorem forall_attempts {P : Cursor → Prop} (hforward : ∀ c n, P c → P (c.forward n)) {c : Cursor}
    (hc : P c) (operations : List Operation) :
    ∀ attempt ∈ c.attempts α operations, P attempt.cursor := by
  induction operations generalizing c with
  | nil => exact fun _ h => nomatch h
  | cons operation operations ih =>
    obtain ⟨n, hn⟩ := operation.exists_cursor_attempt (α := α) c
    have hnext : P (operation.attempt α c).cursor := hn ▸ hforward c n hc
    intro attempt hmem
    obtain rfl | hmem := List.mem_cons.mp hmem
    · exact hnext
    · exact ih hnext attempt hmem

end Cursor

end Slideshow
