/-!
# Cursors

A cursor stands in a text between two characters. It holds what lies ahead and counts what lies
behind, so that every complaint can name a line and a column.

## Main definitions

* `Cursor.ofText`: the cursor before a text.
* `Cursor.past`, `Cursor.step`, `Cursor.forward`: over one character, over the next one, over the
  next few.
* `Cursor.skipBlanks`: over blanks, and over line ends where they count as blank.
* `Cursor.hasWord`: whether a whole word lies ahead.

## Design notes

Nothing behind the cursor is kept. What a reader finds therefore depends on what lies ahead only,
and the coordinates are mere counts. A carriage return is blank exactly where it belongs to a line
end, whether line ends are blank or not.
-/

namespace Slideshow

/-- A place in a text: the characters ahead, the number of characters behind, and the line and the
column counted from one. -/
structure Cursor where
  rest : List Char
  position : Nat
  line : Nat
  column : Nat
  deriving DecidableEq, Repr

namespace Cursor

def ofText (text : String) : Cursor :=
  ⟨text.toList, 0, 1, 1⟩

/-- The cursor behind the character `x`, with `rest` ahead. -/
def past (c : Cursor) (x : Char) (rest : List Char) : Cursor :=
  if x = '\n' then ⟨rest, c.position + 1, c.line + 1, 1⟩
  else ⟨rest, c.position + 1, c.line, c.column + 1⟩

/-- The cursor behind the next character. At the end it stays. -/
def step (c : Cursor) : Cursor :=
  match c.rest with
  | [] => c
  | x :: rest => c.past x rest

/-- The cursor behind the next `n` characters, or at the end if there are fewer. -/
def forward : Nat → Cursor → Cursor
  | 0, c => c
  | n + 1, c => forward n c.step

@[simp] theorem past_rest (c : Cursor) (x : Char) (rest : List Char) :
    (c.past x rest).rest = rest := by
  unfold past; split <;> rfl

@[simp] theorem step_rest (c : Cursor) : c.step.rest = c.rest.tail := by
  unfold step; split <;> simp [*]

@[simp] theorem forward_rest (n : Nat) (c : Cursor) : (forward n c).rest = c.rest.drop n := by
  induction n generalizing c with
  | zero => rfl
  | succ n ih => simp [forward, ih]

theorem forward_add (m n : Nat) (c : Cursor) : forward (m + n) c = forward n (forward m c) := by
  induction m generalizing c with
  | zero => simp [forward]
  | succ m ih => rw [Nat.succ_add]; exact ih c.step

/-- Whether what lies ahead begins with a blank: a space, a line feed where `newlines` holds, or
the carriage return of a line end. -/
def blankAhead (newlines : Bool) : List Char → Bool
  | ' ' :: _ => true
  | '\n' :: _ => newlines
  | '\r' :: '\n' :: _ => true
  | _ => false

theorem length_step_lt_of_blankAhead {newlines : Bool} {c : Cursor}
    (h : blankAhead newlines c.rest = true) : c.step.rest.length < c.rest.length := by
  rw [step_rest]
  cases hr : c.rest with
  | nil => rw [hr] at h; simp [blankAhead] at h
  | cons x rest => simp

/-- The cursor at the first character ahead that is not blank. -/
def skipBlanks (newlines : Bool) (c : Cursor) : Cursor :=
  if blankAhead newlines c.rest then skipBlanks newlines c.step else c
termination_by c.rest.length
decreasing_by exact length_step_lt_of_blankAhead ‹_›

/-- An ASCII letter or digit, which continues a word. -/
def isWordChar (x : Char) : Bool :=
  ('a' ≤ x && x ≤ 'z') || ('A' ≤ x && x ≤ 'Z') || ('0' ≤ x && x ≤ '9')

def hasText (text : String) (c : Cursor) : Bool :=
  text.toList.isPrefixOf c.rest

/-- Whether `word` lies ahead and no letter or digit continues it. -/
def hasWord (word : String) (c : Cursor) : Bool :=
  c.hasText word && !(c.rest.drop word.toList.length).head?.any isWordChar

end Cursor

end Slideshow
