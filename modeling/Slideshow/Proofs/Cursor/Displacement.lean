import Mathlib.Data.List.Forall2
import Slideshow.Proofs.Cursor.Coordinates
import Slideshow.Proofs.Cursor.Relocation

/-!
# Operations in the middle of a text

What comes of operations depends on what lies ahead only. Behind another text they come to the same
as in a text by itself, and the coordinates differ by what the other text takes up.

## Main definitions

* `Offset.ofText`: what a text takes up.
* `Cursor.Displaced`, `Cursor.Attempt.Displaced`: the same place, and the same attempt, behind
  another text.

## Main statements

* `Cursor.attempts_behind`: a sequence of operations moves with its text.
* `Cursor.displaced_attempts`: the same, with the coordinates counted in the text.
-/

namespace Slideshow

variable {α : Type} [Scalar α] {o : Offset}

/-- What a text takes up before another one. -/
def Offset.ofText (before : List Char) : Offset :=
  ⟨before.length, before.count '\n', (Cursor.lastLine before).length⟩

def Failure.message : Failure → String
  | .grammar fault _ _ => fault.message
  | .conversion kind => kind.message

theorem Failure.message_behind (e : Failure) : (e.behind o).message = e.message := by
  cases e <;> rfl

namespace Cursor

/-- Where `fresh` stands in `text`, `moved` stands in `before ++ text`. Only on the first line of
`text` do the columns differ, for that line has begun in `before`. -/
structure Displaced (before text : List Char) (fresh moved : Cursor) : Prop where
  position : moved.position = fresh.position + before.length
  line : moved.line = fresh.line + before.count '\n'
  column_of_mem : '\n' ∈ text.take fresh.position → moved.column = fresh.column
  column_of_not_mem : '\n' ∉ text.take fresh.position →
    moved.column = fresh.column + (lastLine before).length

/-- The same answer or the same message, at the same place behind another text. -/
structure Attempt.Displaced (before text : List Char) (fresh moved : Attempt α) : Prop where
  result : moved.result.mapError Failure.message = fresh.result.mapError Failure.message
  cursor : Cursor.Displaced before text fresh.cursor moved.cursor

/-- The same attempt in the longer text. -/
def Attempt.behind (o : Offset) (attempt : Attempt α) : Attempt α :=
  ⟨attempt.result.mapError (·.behind o), attempt.cursor.behind o⟩

/-! ### Sequences of operations -/

theorem Operation.attempt_behind (operation : Operation) {c : Cursor} (h : 1 ≤ c.line) :
    operation.attempt α (c.behind o) = (operation.attempt α c).behind o := by
  have hreader := (Reader.Relocates.compositional (o := o)).operation (α := α) operation
  rw [attempt, attempt, hreader.apply c h]
  cases operation.reader (α := α) c <;> rfl

/-- A sequence of operations moves with its text. -/
theorem attempts_behind {c : Cursor} (h : 1 ≤ c.line) (operations : List Operation) :
    (c.behind o).attempts α operations = (c.attempts α operations).map (Attempt.behind o) := by
  induction operations generalizing c with
  | nil => rfl
  | cons operation operations ih =>
    obtain ⟨n, hn⟩ := operation.exists_cursor_attempt (α := α) c
    have hline : 1 ≤ (operation.attempt α c).cursor.line := by
      rw [hn]
      exact line_forward_pos h n
    have hnext := ih hline
    rw [attempts, attempts, operation.attempt_behind h, List.map_cons]
    exact congrArg _ hnext

/-! ### Texts one behind the other -/

variable {before text : List Char} {c : Cursor}

/-- On its first line a text has had no line end yet. -/
theorem StandsIn.line_eq_one_iff (h : c.StandsIn text) :
    c.line = 1 ↔ '\n' ∉ text.take c.position := by
  rw [h.line, ← List.count_eq_zero]
  omega

theorem StandsIn.displaced_behind (h : c.StandsIn text) :
    Displaced before text c (c.behind (.ofText before)) := by
  refine ⟨rfl, rfl, fun hmem => ?_, fun hmem => ?_⟩
  · have hline : c.line ≠ 1 := fun hone => h.line_eq_one_iff.mp hone hmem
    exact if_neg hline
  · exact if_pos (h.line_eq_one_iff.mpr hmem)

theorem standsIn_behind_ofText (before : List Char) (text : String) :
    ((Cursor.ofText text).behind (.ofText before)).StandsIn (before ++ text.toList) := by
  constructor <;>
    simp [behind, Cursor.ofText, Offset.ofText, Offset.moveColumn, Nat.add_comm]

/-- The place behind `before` is the beginning of `text`. -/
theorem forward_ofText_append (before text : String) :
    (Cursor.ofText (before ++ text)).forward before.toList.length =
      (Cursor.ofText text).behind (.ofText before.toList) := by
  have hstands := (StandsIn.ofText (before ++ text)).forward before.toList.length
  rw [String.toList_append] at hstands
  refine hstands.eq_of_position_eq (standsIn_behind_ofText _ text) ?_
  have hlength := hstands.position_add_length
  have hrest : ((Cursor.ofText (before ++ text)).forward before.toList.length).rest =
      text.toList := by
    simp [Cursor.ofText]
  rw [hrest, List.length_append, Nat.add_right_cancel_iff] at hlength
  rw [hlength]
  exact (Nat.zero_add _).symm

end Cursor

/-- Where there are enough characters ahead, all of them are taken. -/
theorem Reader.advanceBy_eq_ok {n : Nat} {c : Cursor} (h : n ≤ c.rest.length) :
    advanceBy n c = .ok () (c.forward n) := by
  induction n generalizing c with
  | zero => rfl
  | succ n ih =>
    cases hrest : c.rest with
    | nil => simp [hrest] at h
    | cons x rest =>
      have hadvance : advance c = .ok x c.step := by
        simp only [advance, hrest, Cursor.step]
      rw [advanceBy, bind_apply, hadvance]
      exact ih (by simpa [hrest] using h)

/-- Reading depends on what lies ahead only. Go over the first of two texts that stand one behind
the other, and try any operations from there: each of them answers, or fails, as it does in the
second text by itself. All positions and lines are greater by what the first text takes up, and so
are the columns until the first line end of the second text has been passed. -/
theorem Cursor.displaced_attempts (before text : String) (operations : List Operation) :
    ∃ start, Reader.advanceBy before.toList.length (Cursor.ofText (before ++ text)) = .ok () start ∧
      Displaced before.toList text.toList (.ofText text) start ∧
      List.Forall₂ (Attempt.Displaced before.toList text.toList)
        ((Cursor.ofText text).attempts α operations) (start.attempts α operations) := by
  have hle : before.toList.length ≤ (Cursor.ofText (before ++ text)).rest.length := by
    simp [Cursor.ofText]
  refine ⟨_, Reader.advanceBy_eq_ok hle, ?_, ?_⟩
  · rw [forward_ofText_append]
    exact (StandsIn.ofText text).displaced_behind
  · rw [forward_ofText_append, attempts_behind (Nat.le_refl 1), List.forall₂_map_right_iff,
      List.forall₂_same]
    intro attempt hmem
    refine ⟨?_, (standsIn_of_mem_attempts hmem).displaced_behind⟩
    obtain ⟨result, cursor⟩ := attempt
    cases result with
    | ok answer => rfl
    | error e => exact congrArg Except.error e.message_behind

end Slideshow
