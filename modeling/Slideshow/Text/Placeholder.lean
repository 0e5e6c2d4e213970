/-!
# Placeholders

A placeholder stands in a template behind a percent sign. It can name a field, say how what it
shows is laid out, and ends with the letter of a conversion.

## Main definitions

* `Placeholder`: the parts of a placeholder.
* `Placeholder.read`: the placeholder behind a percent sign, and what is left.

## Main statements

* `Placeholder.length_read_le`: nothing is added to what is left.
-/

namespace Slideshow

/-- A width or a precision: not said, a number, or a star for the next argument. -/
inductive Amount where
  | unsaid
  | number (n : Nat)
  | argument
  deriving DecidableEq, Repr

/-- The name in parentheses, if there is one. It may hold parentheses in pairs. -/
inductive FieldName where
  | absent
  | named (name : String)
  | unclosed
  deriving DecidableEq, Repr

/-- The parts of a placeholder. It has no conversion if the template ends before. -/
structure Placeholder where
  field : FieldName
  flags : List Char
  width : Amount
  precision : Amount
  conversion : Option Char
  deriving DecidableEq, Repr

namespace Placeholder

/-- The rest of a name up to its closing parenthesis, and what is left. Read so far is `done`, the
last character first, and `depth` parentheses are open in it. -/
def closeName (depth : Nat) (done : List Char) : List Char → FieldName × List Char
  | [] => (.unclosed, [])
  | c :: rest =>
    if c = ')' then
      match depth with
      | 0 => (.named (String.ofList done.reverse), rest)
      | depth + 1 => closeName depth (c :: done) rest
    else closeName (if c = '(' then depth + 1 else depth) (c :: done) rest

def readName : List Char → FieldName × List Char
  | '(' :: rest => closeName 0 [] rest
  | rest => (.absent, rest)

/-- The number that decimal digits denote. -/
def numberOf (digits : List Char) : Nat :=
  digits.foldl (fun n c => n * 10 + (c.toNat - '0'.toNat)) 0

def readAmount (text : List Char) : Amount × List Char :=
  match text with
  | '*' :: rest => (.argument, rest)
  | _ =>
    let digits := text.takeWhile Char.isDigit
    (if digits.isEmpty then .unsaid else .number (numberOf digits), text.drop digits.length)

/-- A precision, if a point announces one. A point alone means none at all. -/
def readPrecision : List Char → Amount × List Char
  | '.' :: rest =>
    match readAmount rest with
    | (.unsaid, rest) => (.number 0, rest)
    | found => found
  | rest => (.unsaid, rest)

/-- A text without the letter for the size of a number, which says nothing. -/
def dropSize : List Char → List Char
  | [] => []
  | c :: rest => if c = 'h' ∨ c = 'l' ∨ c = 'L' then rest else c :: rest

def isFlag (c : Char) : Bool :=
  "-+ #0".contains c

/-- A placeholder behind its percent sign, and what is left. -/
def read (text : List Char) : Placeholder × List Char :=
  let (field, text) := readName text
  let flags := text.takeWhile isFlag
  let (width, text) := readAmount (text.drop flags.length)
  let (precision, text) := readPrecision text
  let text := dropSize text
  (⟨field, flags, width, precision, text.head?⟩, text.tail)

/-! ### What is left -/

theorem length_closeName_le (depth : Nat) (done text : List Char) :
    (closeName depth done text).2.length ≤ text.length := by
  induction text generalizing depth done with
  | nil => simp [closeName]
  | cons c rest ih =>
    unfold closeName
    split
    · cases depth with
      | zero => simp
      | succ depth => exact Nat.le_trans (ih _ _) (by simp)
    · exact Nat.le_trans (ih _ _) (by simp)

theorem length_readName_le (text : List Char) : (readName text).2.length ≤ text.length := by
  unfold readName
  split
  · exact Nat.le_trans (length_closeName_le ..) (by simp)
  · exact Nat.le_refl _

theorem length_readAmount_le (text : List Char) : (readAmount text).2.length ≤ text.length := by
  unfold readAmount
  split
  · simp
  · simp

theorem length_readPrecision_le (text : List Char) :
    (readPrecision text).2.length ≤ text.length := by
  unfold readPrecision
  split
  · rename_i rest
    have h := length_readAmount_le rest
    split
    · rename_i heq; rw [heq] at h; exact Nat.le_trans h (by simp)
    · exact Nat.le_trans h (by simp)
  · exact Nat.le_refl _

theorem length_dropSize_le (text : List Char) : (dropSize text).length ≤ text.length := by
  unfold dropSize
  split
  · exact Nat.le_refl _
  · split <;> simp

/-- Reading a placeholder adds nothing to what is left. -/
theorem length_read_le (text : List Char) : (read text).2.length ≤ text.length := by
  simp only [read, List.length_tail]
  refine Nat.le_trans (Nat.sub_le _ _) (Nat.le_trans (length_dropSize_le _) ?_)
  refine Nat.le_trans (length_readPrecision_le _) (Nat.le_trans (length_readAmount_le _) ?_)
  rw [List.length_drop]
  exact Nat.le_trans (Nat.sub_le _ _) (length_readName_le _)

end Placeholder

end Slideshow
