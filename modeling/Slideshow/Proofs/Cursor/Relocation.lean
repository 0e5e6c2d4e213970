import Slideshow.Proofs.Cursor.Operations

/-!
# Texts behind others

Readers look ahead only. If a text stands behind another one, they do there what they do in the text
by itself, and only the coordinates are others.

## Main definitions

* `Offset`: how much stands before a text.
* `Cursor.behind`, `Failure.behind`: the same place, and the same complaint, in the longer text.
* `Reader.Relocates`: readers that move with their text.

## Design notes

Only the first line of the moved text begins in the middle of another one, so only there columns
change. Hence the lines have to be counted from one on.
-/

namespace Slideshow

/-- How much stands before a text: characters, line ends, and characters behind the last of those
line ends. -/
structure Offset where
  position : Nat
  line : Nat
  column : Nat
  deriving DecidableEq, Repr

variable {β γ : Type} {o : Offset}

/-- The column of a place of the moved text. -/
def Offset.moveColumn (o : Offset) (line column : Nat) : Nat :=
  if line = 1 then column + o.column else column

/-- The same complaint in the longer text. -/
def Failure.behind (o : Offset) : Failure → Failure
  | .grammar fault line column => .grammar fault (line + o.line) (o.moveColumn line column)
  | .conversion kind => .conversion kind

namespace Cursor

/-- The same place in the longer text. -/
def behind (o : Offset) (c : Cursor) : Cursor :=
  ⟨c.rest, c.position + o.position, c.line + o.line, o.moveColumn c.line c.column⟩

@[simp] theorem behind_rest (o : Offset) (c : Cursor) : (c.behind o).rest = c.rest :=
  rfl

theorem line_past_pos {c : Cursor} (h : 1 ≤ c.line) (x : Char) (rest : List Char) :
    1 ≤ (c.past x rest).line := by
  unfold past
  split
  · exact Nat.le_add_left 1 c.line
  · exact h

theorem past_behind {c : Cursor} (h : 1 ≤ c.line) (x : Char) (rest : List Char) :
    (c.behind o).past x rest = (c.past x rest).behind o := by
  unfold past
  by_cases hx : x = '\n'
  · have hline : c.line ≠ 0 := by omega
    simp [hx, behind, Offset.moveColumn, hline]
    omega
  · simp only [if_neg hx, behind, Offset.moveColumn]
    split <;> simp <;> omega

theorem line_step_pos {c : Cursor} (h : 1 ≤ c.line) : 1 ≤ c.step.line := by
  unfold step
  split
  · exact h
  · exact line_past_pos h _ _

theorem step_behind {c : Cursor} (h : 1 ≤ c.line) : (c.behind o).step = c.step.behind o := by
  unfold step
  rw [behind_rest]
  split
  · rfl
  · exact past_behind h _ _

theorem line_forward_pos {c : Cursor} (h : 1 ≤ c.line) (n : Nat) : 1 ≤ (c.forward n).line := by
  induction n generalizing c with
  | zero => exact h
  | succ n ih => exact ih (line_step_pos h)

theorem forward_behind {c : Cursor} (h : 1 ≤ c.line) (n : Nat) :
    forward n (c.behind o) = (forward n c).behind o := by
  induction n generalizing c with
  | zero => rfl
  | succ n ih => rw [forward, forward, step_behind h, ih (line_step_pos h)]

theorem skipBlanks_behind {newlines : Bool} {c : Cursor} (h : 1 ≤ c.line) :
    (c.behind o).skipBlanks newlines = (c.skipBlanks newlines).behind o := by
  fun_induction skipBlanks newlines c with
  | case1 c hblank ih =>
    rw [skipBlanks, behind_rest, if_pos hblank, step_behind h, ih (line_step_pos h)]
  | case2 c hblank => rw [skipBlanks, behind_rest, if_neg hblank]

end Cursor

namespace Reader

/-- The same result in the longer text. -/
def resultBehind (o : Offset) :
    EStateM.Result Failure Cursor β → EStateM.Result Failure Cursor β
  | .ok b c => .ok b (c.behind o)
  | .error e c => .error (e.behind o) (c.behind o)

/-- The reader does in the longer text what it does in the text by itself. -/
structure Relocates (o : Offset) (r : Reader β) : Prop where
  apply : ∀ c, 1 ≤ c.line → r (c.behind o) = resultBehind o (r c)
  line_pos : ∀ c, 1 ≤ c.line → 1 ≤ (after (r c)).line

namespace Relocates

/-- It is enough that what is read depends on what lies ahead only. -/
theorem of_forward {r : Reader β} (hr : Forward r)
    (h : ∀ c, 1 ≤ c.line → r (c.behind o) = resultBehind o (r c)) : Relocates o r where
  apply := h
  line_pos c hc := by
    obtain ⟨n, hn⟩ := hr c
    rw [hn]
    exact Cursor.line_forward_pos hc n

theorem bind {r : Reader β} {f : β → Reader γ} (hr : Relocates o r)
    (hf : ∀ b, Relocates o (f b)) : Relocates o (r >>= f) := by
  constructor
  · intro c hc
    have hline := hr.line_pos c hc
    rw [bind_apply, bind_apply, hr.apply c hc]
    cases hrc : r c with
    | error e c' => rfl
    | ok b c' =>
      rw [hrc] at hline
      exact (hf b).apply c' hline
  · intro c hc
    have hline := hr.line_pos c hc
    rw [bind_apply]
    cases hrc : r c with
    | error e c' =>
      rw [hrc] at hline
      exact hline
    | ok b c' =>
      rw [hrc] at hline
      exact (hf b).line_pos c' hline

theorem pure (b : β) : Relocates o (pure b : Reader β) :=
  ⟨fun _ _ => rfl, fun _ h => h⟩

theorem fail (fault : Fault) : Relocates o (fail fault : Reader β) :=
  ⟨fun _ _ => rfl, fun _ h => h⟩

theorem ofExcept (x : Except NonFinite β) : Relocates o (ofExcept x) := by
  cases x with
  | ok b => exact .pure b
  | error kind => exact ⟨fun _ _ => rfl, fun _ h => h⟩

theorem atEnd : Relocates o atEnd :=
  ⟨fun _ _ => rfl, fun _ h => h⟩

theorem peek : Relocates o peek :=
  ⟨fun _ _ => rfl, fun _ h => h⟩

theorem advance : Relocates o advance := by
  refine .of_forward .advance fun c hc => ?_
  unfold Reader.advance
  rw [Cursor.behind_rest]
  split
  · rfl
  · rw [Cursor.past_behind hc]
    rfl

theorem skipBlanks (newlines : Bool) : Relocates o (skipBlanks newlines) := by
  refine .of_forward (.skipBlanks newlines) fun c hc => ?_
  unfold Reader.skipBlanks
  rw [Cursor.skipBlanks_behind hc]
  rfl

theorem expect (text : String) : Relocates o (expect text) := by
  refine .of_forward (.expect text) fun c hc => ?_
  have htext : (c.behind o).hasText text = c.hasText text := rfl
  unfold Reader.expect
  rw [htext, Cursor.forward_behind hc]
  split <;> rfl

theorem accept (x : Char) : Relocates o (accept x) := by
  refine .of_forward (.accept x) fun c hc => ?_
  unfold Reader.accept
  rw [Cursor.behind_rest, Cursor.step_behind hc]
  split <;> rfl

theorem span (p : Char → Bool) : Relocates o (span p) := by
  refine .of_forward (.span p) fun c hc => ?_
  simp only [Reader.span, Cursor.behind_rest, Cursor.forward_behind hc]
  rfl

theorem word (text : String) : Relocates o (word text) := by
  refine .of_forward (.word text) fun c hc => ?_
  have hword : (c.behind o).hasWord text = c.hasWord text := rfl
  unfold Reader.word
  rw [hword, Cursor.forward_behind hc]
  split <;> rfl

theorem wordOf (spelling : β → String) (keys : List β) : Relocates o (wordOf spelling keys) := by
  refine .of_forward (.wordOf spelling keys) fun c hc => ?_
  have hword : ∀ word, (c.behind o).hasWord word = c.hasWord word := fun _ => rfl
  unfold Reader.wordOf
  simp only [hword, Cursor.forward_behind hc]
  split <;> rfl

theorem hasText (text : String) : Relocates o (hasText text) :=
  ⟨fun _ _ => rfl, fun _ h => h⟩

theorem compositional : Compositional fun r => Relocates o r where
  pure := pure
  bind := bind
  fail := fail
  atEnd := atEnd
  peek := peek
  hasText := hasText
  advance := advance
  skipBlanks := skipBlanks
  expect := expect
  accept := accept
  span := span
  word := word

theorem require (holds : Bool) (fault : Fault) : Relocates o (require holds fault) :=
  compositional.require holds fault

/-! ### Readers of values -/

variable {α : Type} [Scalar α]

theorem number : Relocates o (number : Reader α) :=
  compositional.number

theorem vec : Relocates o (vec : Reader (Vec α)) :=
  compositional.vec

theorem quoted : Relocates o quoted :=
  compositional.quoted

theorem assigned {value : Reader β} (h : Relocates o value) : Relocates o (assigned value) :=
  compositional.assigned h

theorem integer : Relocates o (integer α) :=
  .bind .number fun _ => .ofExcept _

end Relocates

end Reader

end Slideshow
