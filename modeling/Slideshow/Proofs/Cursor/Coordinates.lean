import Mathlib.Data.List.DropRight
import Slideshow.Proofs.Cursor.Operations

/-!
# Coordinates in a text

Position, line and column of a cursor are those of its place in the text, whatever operations have
brought it there, and also where one of them gave up half-way. Hence a complaint names the place at
which the cursor stands when it is made.

## Main definitions

* `Cursor.lastLine`: what stands behind the last line end of a text.
* `Cursor.StandsIn`: a cursor with the coordinates of its place in a text.
* `Reader.Located`: a reader that complains about the place where it stops.

## Main statements

* `Cursor.StandsIn.step`, `Cursor.StandsIn.forward`: coordinates stay right.
* `Reader.compositional_located`: no reader complains about another place than its own.
* `Cursor.coordinates_of_attempts`: all this for any sequence of operations.
-/

namespace Slideshow

variable {β γ : Type}

/-- The failure is a complaint about the place of the cursor. -/
def Failure.At (c : Cursor) (e : Failure) : Prop :=
  ∃ fault, e = .grammar fault c.line c.column

namespace Cursor

/-- What stands behind the last line end of a text, which is all of it if there is none. -/
def lastLine (text : List Char) : List Char :=
  text.rtakeWhile (· != '\n')

/-- The cursor stands somewhere in `text`, and counts what lies behind it there: the characters, the
line ends, and the characters behind the last of those. -/
structure StandsIn (text : List Char) (c : Cursor) : Prop where
  take_append_rest : text.take c.position ++ c.rest = text
  position_add_length : c.position + c.rest.length = text.length
  line : c.line = 1 + (text.take c.position).count '\n'
  column : c.column = 1 + (lastLine (text.take c.position)).length

theorem position_past (c : Cursor) (x : Char) (rest : List Char) :
    (c.past x rest).position = c.position + 1 := by
  unfold past
  split <;> rfl

theorem position_le_step (c : Cursor) : c.position ≤ c.step.position := by
  unfold step
  split
  · exact Nat.le_refl _
  · rw [position_past]
    omega

theorem position_le_forward (n : Nat) (c : Cursor) : c.position ≤ (c.forward n).position := by
  induction n generalizing c with
  | zero => exact Nat.le_refl _
  | succ n ih => exact Nat.le_trans (position_le_step c) (ih c.step)

/-- What is behind a cursor and what is ahead of it are as much as before. -/
theorem position_forward_add_length (n : Nat) (c : Cursor) :
    (c.forward n).position + (c.forward n).rest.length = c.position + c.rest.length := by
  induction n generalizing c with
  | zero => rfl
  | succ n ih =>
    rw [forward, ih c.step, step_rest, step]
    split
    · next hrest => rw [hrest, List.tail_nil]
    · next x rest hrest =>
      rw [hrest, position_past, List.tail_cons, List.length_cons]
      omega

theorem position_forward {n : Nat} {c : Cursor} (h : n ≤ c.rest.length) :
    (c.forward n).position = c.position + n := by
  have hlength := position_forward_add_length n c
  rw [forward_rest, List.length_drop] at hlength
  omega

namespace StandsIn

variable {text : List Char} {c d : Cursor}

theorem ofText (text : String) : (Cursor.ofText text).StandsIn text.toList where
  take_append_rest := rfl
  position_add_length := Nat.zero_add _
  line := rfl
  column := rfl

/-- Behind the next character what lies behind has grown by it. -/
theorem take_succ (h : c.StandsIn text) {x : Char} {rest : List Char} (hrest : c.rest = x :: rest) :
    text.take (c.position + 1) = text.take c.position ++ [x] := by
  have hdrop : text.drop c.position = x :: rest := by
    have htake := h.take_append_rest
    nth_rewrite 2 [← List.take_append_drop c.position text] at htake
    rw [← List.append_cancel_left htake, hrest]
  rw [List.take_add_one, ← List.head?_drop, hdrop]
  rfl

theorem past (h : c.StandsIn text) {x : Char} {rest : List Char} (hrest : c.rest = x :: rest) :
    (c.past x rest).StandsIn text := by
  have htake := h.take_succ hrest
  have happend := h.take_append_rest
  have hlength := h.position_add_length
  have hline := h.line
  have hcolumn := h.column
  rw [hrest] at happend hlength
  constructor
  · rw [position_past, past_rest, htake, List.append_assoc]
    exact happend
  · rw [position_past, past_rest]
    simp only [List.length_cons] at hlength
    omega
  · rw [position_past, htake, List.count_append]
    unfold Cursor.past
    by_cases hx : x = '\n'
    · simp [hx]
      omega
    · simp [hx]
      omega
  · rw [position_past, htake, lastLine]
    unfold Cursor.past
    by_cases hx : x = '\n'
    · rw [List.rtakeWhile_concat_neg _ _ _ (by simp [hx])]
      simp [hx]
    · rw [List.rtakeWhile_concat_pos _ _ _ (by simp [hx])]
      simp [hx]
      rw [hcolumn, lastLine]
      omega

theorem step (h : c.StandsIn text) : c.step.StandsIn text := by
  unfold Cursor.step
  split
  · exact h
  · next hrest => exact h.past hrest

theorem forward (h : c.StandsIn text) (n : Nat) : (c.forward n).StandsIn text := by
  induction n generalizing c with
  | zero => exact h
  | succ n ih => exact ih h.step

/-- There is one cursor at each position of a text. -/
theorem eq_of_position_eq (h : c.StandsIn text) (h' : d.StandsIn text)
    (hposition : c.position = d.position) : c = d := by
  obtain ⟨rest, position, line, column⟩ := c
  obtain ⟨rest', position', line', column'⟩ := d
  obtain ⟨happend, -, hline, hcolumn⟩ := h
  obtain ⟨happend', -, hline', hcolumn'⟩ := h'
  subst hposition
  simp only at happend happend' hline hline' hcolumn hcolumn'
  rw [List.append_cancel_left (happend.trans happend'.symm), hline, hline', hcolumn, hcolumn']

end StandsIn

end Cursor

/-! ### Complaints -/

namespace Reader

/-- Where the reader fails, it complains about the place at which its cursor then stands. -/
def Located (r : Reader β) : Prop :=
  ∀ c e c', r c = .error e c' → e.At c'

theorem Located.bind {r : Reader β} {f : β → Reader γ} (hr : Located r)
    (hf : ∀ b, Located (f b)) : Located (r >>= f) := by
  intro c e c' h
  rw [bind_apply] at h
  cases hc : r c with
  | error e d =>
    rw [hc] at h
    cases h
    exact hr _ _ _ hc
  | ok b d =>
    rw [hc] at h
    exact hf b _ _ _ h

/-- A reader that always answers has nothing to complain about. -/
theorem Located.of_answers {r : Reader β} (h : ∀ c, ∃ b c', r c = .ok b c') : Located r := by
  intro c e c' he
  obtain ⟨b, d, hc⟩ := h c
  rw [hc] at he
  cases he

theorem Located.fail (fault : Fault) : Located (fail fault : Reader β) := by
  intro c e c' h
  cases h
  exact ⟨fault, rfl⟩

theorem Located.advance : Located advance := by
  intro c e c' h
  unfold Reader.advance at h
  split at h
  · exact Located.fail .endOfText _ _ _ h
  · cases h

theorem Located.expect (text : String) : Located (expect text) := by
  intro c e c' h
  unfold Reader.expect at h
  split at h
  · cases h
  · exact Located.fail _ _ _ _ h

theorem Located.accept (x : Char) : Located (accept x) := by
  apply Located.of_answers
  intro c
  unfold Reader.accept
  split
  · exact ⟨_, _, rfl⟩
  · exact ⟨_, _, rfl⟩

theorem Located.word (text : String) : Located (word text) := by
  apply Located.of_answers
  intro c
  unfold Reader.word
  split
  · exact ⟨_, _, rfl⟩
  · exact ⟨_, _, rfl⟩

/-- What is put together from other readers stops where one of them does: of too many characters it
has taken those that there are, of an open quotation all up to the end. -/
theorem compositional_located : Compositional @Located where
  pure b := .of_answers fun c => ⟨b, c, rfl⟩
  bind := .bind
  fail := .fail
  atEnd := .of_answers fun c => ⟨_, c, rfl⟩
  peek := .of_answers fun c => ⟨_, c, rfl⟩
  hasText _ := .of_answers fun c => ⟨_, c, rfl⟩
  advance := .advance
  skipBlanks _ := .of_answers fun _ => ⟨_, _, rfl⟩
  expect := .expect
  accept := .accept
  span _ := .of_answers fun _ => ⟨_, _, rfl⟩
  word := .word

end Reader

/-! ### Operations -/

namespace Cursor

variable {α : Type} [Scalar α]

/-- Where an operation fails, it complains about the place at which the cursor then stands. -/
theorem Operation.at_of_attempt_error {operation : Operation} {c : Cursor} {e : Failure}
    (h : (operation.attempt α c).result = .error e) : e.At (operation.attempt α c).cursor := by
  unfold attempt at h ⊢
  cases hread : operation.reader (α := α) c with
  | ok answer c' =>
    rw [hread] at h
    cases h
  | error e' c' =>
    rw [hread] at h
    cases h
    exact Reader.compositional_located.operation operation _ _ _ hread

/-- Operations on a text do not leave it. -/
theorem standsIn_of_mem_attempts {text : String} {operations : List Operation} {attempt : Attempt α}
    (h : attempt ∈ (Cursor.ofText text).attempts α operations) :
    attempt.cursor.StandsIn text.toList :=
  forall_attempts (P := StandsIn text.toList) (fun _ n hc => hc.forward n) (.ofText text) operations
    attempt h

/-- No operation moves the cursor back. -/
theorem pairwise_position (c : Cursor) (operations : List Operation) :
    (c :: (c.attempts α operations).map Attempt.cursor).Pairwise
      fun a b => a.position ≤ b.position := by
  induction operations generalizing c with
  | nil => exact List.pairwise_singleton _ _
  | cons operation operations ih =>
    refine List.pairwise_cons.mpr ⟨?_, ih _⟩
    intro d hd
    obtain ⟨attempt, hattempt, rfl⟩ := List.mem_map.mp hd
    have hforward : ∀ (a : Cursor) n, c.position ≤ a.position →
        c.position ≤ (a.forward n).position := fun a n h =>
      Nat.le_trans h (position_le_forward n a)
    exact forall_attempts hforward (Nat.le_refl _) (operation :: operations) attempt hattempt

/-- The coordinates of a cursor are always those of its place in the text. Whatever operations are
tried on the text, failing ones among them, after each of them the cursor stands somewhere in the
very same text, no further back than before, and counts the characters, the lines and the columns
up to there. And whatever fails is a complaint about just that place. -/
theorem coordinates_of_attempts (text : String) (operations : List Operation) :
    (∀ attempt ∈ (Cursor.ofText text).attempts α operations,
      attempt.cursor.StandsIn text.toList ∧
        ∀ e, attempt.result = .error e → e.At attempt.cursor) ∧
      (Cursor.ofText text :: ((Cursor.ofText text).attempts α operations).map
        Attempt.cursor).Pairwise fun a b => a.position ≤ b.position := by
  refine ⟨fun attempt hmem => ⟨standsIn_of_mem_attempts hmem, fun e he => ?_⟩,
    pairwise_position _ operations⟩
  obtain ⟨operation, d, rfl⟩ := exists_of_mem_attempts hmem
  exact Operation.at_of_attempt_error he

/-- A quotation that begins on the second line of a text and is not closed: the reader comes to the
end of the text and complains about the column behind its last character. -/
theorem coordinates_of_attempts_open_quotation :
    let failed : Attempt Rat := ⟨.error (.grammar (.expected "\"") 2 5), ⟨[], 6, 2, 5⟩⟩
    failed ∈ (Cursor.ofText "x\n\"abc").attempts Rat [.advanceBy 2, .value .quoted] ∧
      failed.cursor.StandsIn "x\n\"abc".toList ∧
      (Failure.grammar (.expected "\"") 2 5).At failed.cursor := by
  intro failed
  have hattempts : (Cursor.ofText "x\n\"abc").attempts Rat [.advanceBy 2, .value .quoted] =
      [⟨.ok .done, ⟨['"', 'a', 'b', 'c'], 2, 2, 1⟩⟩, failed] := by
    cbv
  have hmem : failed ∈ (Cursor.ofText "x\n\"abc").attempts Rat [.advanceBy 2, .value .quoted] := by
    rw [hattempts]
    exact .tail _ (.head _)
  obtain ⟨hstands, hat⟩ := (coordinates_of_attempts "x\n\"abc" _).1 failed hmem
  exact ⟨hmem, hstands, hat _ rfl⟩

end Cursor

end Slideshow
