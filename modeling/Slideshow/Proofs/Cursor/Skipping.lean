import Mathlib.Order.Bounds.Basic
import Slideshow.Proofs.Cursor.Blanks
import Slideshow.Proofs.Cursor.Coordinates

/-!
# The end of blanks

Blanks are skipped up to the first character that is none, and not further. Which characters count
as blank is said here of the places of a text, by a character and the one behind it.

## Main definitions

* `Cursor.BlankAt`: the character at a place counts as blank.

## Main statements

* `Cursor.exists_skipBlanks`: all that is skipped is blank, and what is skipped to is not.
* `Cursor.line_skipBlanks_false`: where line ends do not count as blank, the line stays the same.
* `Cursor.skipBlanks_stops`: where the skipping stops, the first time and the second.
-/

namespace Slideshow.Cursor

variable {newlines : Bool}

/-- The character at a place of a text counts as blank: it is a space, a line feed where `newlines`
holds, or a carriage return directly before a line feed. -/
def BlankAt (newlines : Bool) (text : List Char) (n : Nat) : Prop :=
  text[n]? = some ' ' ∨ newlines = true ∧ text[n]? = some '\n' ∨
    text[n]? = some '\r' ∧ text[n + 1]? = some '\n'

theorem blankAhead_iff {text : List Char} :
    blankAhead newlines text = true ↔ BlankAt newlines text 0 := by
  constructor
  · intro h
    obtain hspace | ⟨hnewlines, hline⟩ | ⟨more, rfl⟩ := blankAhead_cases h
    · exact .inl (List.head?_eq_getElem?.symm.trans hspace)
    · exact .inr (.inl ⟨hnewlines, List.head?_eq_getElem?.symm.trans hline⟩)
    · exact .inr (.inr ⟨rfl, rfl⟩)
  · intro h
    match text, h with
    | x :: rest, .inl hspace =>
      cases hspace
      rfl
    | x :: rest, .inr (.inl ⟨hnewlines, hline⟩) =>
      cases hline
      exact hnewlines
    | x :: y :: rest, .inr (.inr ⟨hreturn, hline⟩) =>
      cases hreturn
      cases hline
      rfl

/-- One place further on in a text is the same place behind its first character. -/
theorem blankAt_tail {text : List Char} {n : Nat} :
    BlankAt newlines text.tail n ↔ BlankAt newlines text (n + 1) := by
  simp only [BlankAt, List.getElem?_tail]

/-- All that is skipped is blank, and what is skipped to is not. -/
theorem exists_skipBlanks (newlines : Bool) (c : Cursor) :
    ∃ n, c.skipBlanks newlines = c.forward n ∧ ¬BlankAt newlines c.rest n ∧
      ∀ m < n, BlankAt newlines c.rest m := by
  fun_induction skipBlanks newlines c with
  | case1 c h ih =>
    obtain ⟨n, hn, hstop, hblank⟩ := ih
    simp only [step_rest, blankAt_tail] at hstop hblank
    refine ⟨n + 1, hn, hstop, fun m hm => ?_⟩
    cases m with
    | zero => exact blankAhead_iff.mp h
    | succ m => exact hblank m (Nat.lt_of_succ_lt_succ hm)
  | case2 c h => exact ⟨0, rfl, mt blankAhead_iff.mpr h, fun m hm => absurd hm m.not_lt_zero⟩

/-- The carriage return of a line end is skipped, its line feed is not. -/
theorem line_step_of_blankAhead {c : Cursor} (h : blankAhead false c.rest = true) :
    c.step.line = c.line := by
  have hhead : c.rest.head? ≠ some '\n' := by
    intro hline
    obtain hspace | ⟨hfalse, -⟩ | ⟨more, hreturn⟩ := blankAhead_cases h
    · cases hspace.symm.trans hline
    · cases hfalse
    · rw [hreturn] at hline
      cases hline
  rw [step]
  split
  · rfl
  · next x rest hrest =>
    rw [past, if_neg (by simpa [hrest] using hhead)]

/-- Where line ends do not count as blank, the line stays the same. -/
theorem line_skipBlanks_false (c : Cursor) : (c.skipBlanks false).line = c.line := by
  fun_induction skipBlanks false c with
  | case1 c h ih => rw [ih, line_step_of_blankAhead h]
  | case2 c _ => rfl

/-! ### The place that is skipped to -/

theorem lt_length_of_blankAt {text : List Char} {n : Nat} (h : BlankAt newlines text n) :
    n < text.length := by
  obtain h | ⟨-, h⟩ | ⟨h, -⟩ := h <;> exact (List.getElem?_eq_some_iff.mp h).1

/-- The skipping stops at the first place where the text ends or a character is not blank. -/
theorem isLeast_of_blankAt {text : List Char} {n : Nat} (hstop : ¬BlankAt newlines text n)
    (hblank : ∀ m < n, BlankAt newlines text m) :
    IsLeast {m | m = text.length ∨ m < text.length ∧ ¬BlankAt newlines text m} n := by
  have hle : n ≤ text.length := by
    cases n with
    | zero => exact Nat.zero_le _
    | succ n => exact lt_length_of_blankAt (hblank n n.lt_succ_self)
  constructor
  · obtain heq | hlt := Nat.eq_or_lt_of_le hle
    · exact .inl heq
    · exact .inr ⟨hlt, hstop⟩
  · rintro m (rfl | ⟨-, hm⟩)
    · exact hle
    · exact Nat.le_of_not_lt fun hlt => hm (hblank m hlt)

/-- Blanks are skipped without fail, up to the first place from the cursor on at which the text ends
or a character stands that does not count as blank. Skipping them again moves nothing. Where line
ends do not count, the line stays the same, and skipping all blanks afterwards leads to where they
would have been skipped to at once. -/
theorem skipBlanks_stops (newlines : Bool) (c : Cursor) :
    Reader.skipBlanks newlines c = .ok () (c.skipBlanks newlines) ∧
    (∃ n, c.skipBlanks newlines = c.forward n ∧
      (c.skipBlanks newlines).position = c.position + n ∧
      IsLeast {m | m = c.rest.length ∨ m < c.rest.length ∧ ¬BlankAt newlines c.rest m} n) ∧
    (c.skipBlanks newlines).skipBlanks newlines = c.skipBlanks newlines ∧
    (c.skipBlanks false).line = c.line ∧
    (c.skipBlanks false).skipBlanks true = c.skipBlanks true := by
  obtain ⟨n, hn, hstop, hblank⟩ := exists_skipBlanks newlines c
  have hleast := isLeast_of_blankAt hstop hblank
  have hposition : (c.skipBlanks newlines).position = c.position + n := by
    rw [hn, position_forward (hleast.2 (.inl rfl))]
  exact ⟨rfl, ⟨n, hn, hposition, hleast⟩,
    skipBlanks_of_not_blankAhead (blankAhead_skipBlanks newlines c), line_skipBlanks_false c,
    skipBlanks_true_skipBlanks false c⟩

/-- A carriage return at the end of a text is no blank, and before a line feed it is one. -/
example : ((ofText " \r\n \r").skipBlanks true).position = 4 ∧
    ((ofText " \r\n \r").skipBlanks false).position = 2 := by
  decide +kernel

end Slideshow.Cursor
