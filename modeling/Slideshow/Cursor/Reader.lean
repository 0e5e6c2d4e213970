import Slideshow.Cursor.Basic
import Slideshow.Number.Scalar

/-!
# Readers

A reader looks at what lies ahead of a cursor, moves the cursor over what it takes, and answers or
fails. After a failure the cursor stands where the reader gave up.

## Main definitions

* `Fault`: what can be wrong with a description.
* `Failure`: a fault with its place, or a number too large to be counted with.
* `Reader`: the monad of readers.
* `Reader.expect`, `Reader.span`, `Reader.word`, `Reader.wordOf`: the readers of literal text.

## Main statements

* `Reader.Forward`: a reader only moves its cursor forward. All readers of this library do, and
  sequences of such readers do.
* `Reader.Advances`: a reader that succeeds has taken a character. Loops of readers end by it.
-/

namespace Slideshow

/-- What can be wrong at a place of a description. -/
inductive Fault where
  | endOfText
  | expected (text : String)
  | noNumber
  | noProperty
  | screenUnset
  | screenSet
  | screenZero
  deriving DecidableEq, Repr

def Fault.message : Fault → String
  | .endOfText => "reached end of file"
  | .expected text => if text = "\n" then "expected newline" else "expected '" ++ text ++ "'"
  | .noNumber => "expected number"
  | .noProperty => "unexpected character"
  | .screenUnset => "screen dimensions have not been set, cannot define an image"
  | .screenSet => "screen dimensions have already been set"
  | .screenZero => "screen dimensions must be non-zero"

/-- How a reader fails: at a fault in the text, or because a number that it has to count with is
not finite. -/
inductive Failure where
  | grammar (fault : Fault) (line column : Nat)
  | conversion (kind : NonFinite)
  deriving DecidableEq, Repr

/-- A complaint about the place of a cursor. -/
def Cursor.complaint (line column : Nat) (message : String) : String :=
  "At " ++ toString line ++ ":" ++ toString column ++ ", " ++ message

/-- A computation that takes characters from a cursor, answers or fails, and leaves the cursor
where it came to. -/
abbrev Reader (β : Type) := EStateM Failure Cursor β

namespace Reader

/-- The cursor that a run of a reader leaves. -/
def after {β : Type} : EStateM.Result Failure Cursor β → Cursor
  | .ok _ c => c
  | .error _ c => c

variable {β γ : Type}

def fail (fault : Fault) : Reader β := fun c =>
  .error (.grammar fault c.line c.column) c

def require (holds : Bool) (fault : Fault) : Reader Unit :=
  if holds then pure () else fail fault

/-- Fails for want of an integer. -/
def ofExcept : Except NonFinite β → Reader β
  | .ok b => pure b
  | .error kind => throw (.conversion kind)

def atEnd : Reader Bool := fun c => .ok c.rest.isEmpty c

def place : Reader (Nat × Nat) := fun c => .ok (c.line, c.column) c

/-- The next character, which stays ahead. -/
def peek : Reader (Option Char) := fun c => .ok c.rest.head? c

def advance : Reader Char := fun c =>
  match c.rest with
  | [] => fail .endOfText c
  | x :: rest => .ok x (c.past x rest)

/-- Takes the next `n` characters. Where there are fewer it takes those and fails. -/
def advanceBy : Nat → Reader Unit
  | 0 => pure ()
  | n + 1 => do
    let _ ← advance
    advanceBy n

def skipBlanks (newlines : Bool) : Reader Unit := fun c => .ok () (c.skipBlanks newlines)

def expect (text : String) : Reader Unit := fun c =>
  if c.hasText text then .ok () (c.forward text.toList.length) else fail (.expected text) c

/-- Takes `x` if it lies ahead, and says whether it did. -/
def accept (x : Char) : Reader Bool := fun c =>
  if c.rest.head? = some x then .ok true c.step else .ok false c

/-- Takes the longest run of characters with `p`. -/
def span (p : Char → Bool) : Reader (List Char) := fun c =>
  let run := c.rest.takeWhile p
  .ok run (c.forward run.length)

/-- Takes the whole word `word` if it lies ahead, and says whether it did. -/
def word (word : String) : Reader Bool := fun c =>
  if c.hasWord word then .ok true (c.forward word.toList.length) else .ok false c

/-- Takes the first of the words of `keys` that lies ahead, and says which. -/
def wordOf (spelling : β → String) (keys : List β) : Reader (Option β) := fun c =>
  match keys.find? fun key => c.hasWord (spelling key) with
  | some key => .ok (some key) (c.forward (spelling key).toList.length)
  | none => .ok none c

/-! ### Readers only move forward -/

/-- Every run of the reader leaves the cursor some characters further on. -/
def Forward (r : Reader β) : Prop :=
  ∀ c, ∃ n, after (r c) = c.forward n

theorem Forward.length_le {r : Reader β} (h : Forward r) (c : Cursor) :
    (after (r c)).rest.length ≤ c.rest.length := by
  obtain ⟨n, hn⟩ := h c
  rw [hn, Cursor.forward_rest, List.length_drop]
  omega

theorem Forward.pure (b : β) : Forward (pure b : Reader β) := fun _ => ⟨0, rfl⟩

theorem Forward.throw (e : Failure) : Forward (throw e : Reader β) := fun _ => ⟨0, rfl⟩

/-- A sequence of readers passes the cursor on, and stops at the first failure. -/
theorem bind_apply (r : Reader β) (f : β → Reader γ) (c : Cursor) :
    (r >>= f) c = match r c with
      | .ok b c' => f b c'
      | .error e c' => .error e c' := by
  show EStateM.bind r f c = _
  unfold EStateM.bind
  cases r c <;> rfl

theorem Forward.bind {r : Reader β} {f : β → Reader γ} (hr : Forward r)
    (hf : ∀ b, Forward (f b)) : Forward (r >>= f) := by
  intro c
  obtain ⟨m, hm⟩ := hr c
  rw [bind_apply]
  cases hc : r c with
  | error e c' =>
    rw [hc] at hm
    exact ⟨m, hm⟩
  | ok b c' =>
    rw [hc] at hm
    obtain ⟨n, hn⟩ := hf b c'
    exact ⟨m + n, by rw [Cursor.forward_add, ← hm]; exact hn⟩

theorem Forward.fail (fault : Fault) : Forward (fail fault : Reader β) := fun _ => ⟨0, rfl⟩

theorem Forward.require (holds : Bool) (fault : Fault) : Forward (require holds fault) := by
  unfold Reader.require
  split
  · exact .pure ()
  · exact .fail fault

theorem Forward.ofExcept (x : Except NonFinite β) : Forward (ofExcept x) := by
  cases x with
  | ok b => exact .pure b
  | error kind => exact .throw _

theorem Forward.atEnd : Forward atEnd := fun _ => ⟨0, rfl⟩

theorem Forward.place : Forward place := fun _ => ⟨0, rfl⟩

theorem Forward.peek : Forward peek := fun _ => ⟨0, rfl⟩

theorem Forward.advance : Forward advance := by
  intro c
  unfold Reader.advance
  split
  · exact ⟨0, rfl⟩
  · next x rest h => exact ⟨1, by simp [after, Cursor.forward, Cursor.step, h]⟩

theorem Forward.skipBlanks (newlines : Bool) : Forward (skipBlanks newlines) := by
  intro c
  show ∃ n, c.skipBlanks newlines = c.forward n
  fun_induction Cursor.skipBlanks newlines c with
  | case1 c _ ih =>
    obtain ⟨n, hn⟩ := ih
    exact ⟨n + 1, hn⟩
  | case2 c _ => exact ⟨0, rfl⟩

theorem Forward.expect (text : String) : Forward (expect text) := by
  intro c
  unfold Reader.expect
  split
  · exact ⟨_, rfl⟩
  · exact ⟨0, rfl⟩

theorem Forward.accept (x : Char) : Forward (accept x) := by
  intro c
  unfold Reader.accept
  split
  · exact ⟨1, rfl⟩
  · exact ⟨0, rfl⟩

theorem Forward.span (p : Char → Bool) : Forward (span p) := fun _ => ⟨_, rfl⟩

theorem Forward.word (w : String) : Forward (word w) := by
  intro c
  unfold Reader.word
  split
  · exact ⟨_, rfl⟩
  · exact ⟨0, rfl⟩

theorem Forward.wordOf (spelling : β → String) (keys : List β) :
    Forward (wordOf spelling keys) := by
  intro c
  unfold Reader.wordOf
  split
  · exact ⟨_, rfl⟩
  · exact ⟨0, rfl⟩

/-! ### Readers that take something -/

/-- A run of the reader that succeeds with an answer in `P` leaves fewer characters ahead. -/
def Advances (r : Reader β) (P : β → Prop) : Prop :=
  ∀ c b c', r c = .ok b c' → P b → c'.rest.length < c.rest.length

/-- A sequence takes something if its first part does, or the second does whenever the first did
not. -/
theorem Advances.bind {r : Reader β} {f : β → Reader γ} {P : β → Prop} {Q : γ → Prop}
    (hr : Forward r) (hP : Advances r P) (hf : ∀ b, P b → Forward (f b))
    (hQ : ∀ b, ¬P b → Advances (f b) Q) : Advances (r >>= f) Q := by
  intro c b' c'' h hb'
  rw [bind_apply] at h
  cases hc : r c with
  | error e c' => rw [hc] at h; cases h
  | ok b c' =>
    rw [hc] at h
    replace h : f b c' = .ok b' c'' := h
    have hle := hr.length_le c
    rw [hc] at hle
    replace hle : c'.rest.length ≤ c.rest.length := hle
    by_cases hb : P b
    · have hlt := hP c b c' hc hb
      have := (hf b hb).length_le c'
      rw [h] at this
      exact Nat.lt_of_le_of_lt this hlt
    · exact Nat.lt_of_lt_of_le (hQ b hb c' b' c'' h hb') hle

/-- A sequence takes something if its second part does. -/
theorem Advances.after {r : Reader β} {f : β → Reader γ} {Q : γ → Prop} (hr : Forward r)
    (hf : ∀ b, Advances (f b) Q) : Advances (r >>= f) Q :=
  .bind (P := fun _ => False) hr (fun _ _ _ _ hb => hb.elim) (fun _ hb => hb.elim)
    fun b _ => hf b

/-- A sequence takes something if its first part does. -/
theorem Advances.before {r : Reader β} {f : β → Reader γ} {Q : γ → Prop} (hr : Forward r)
    (hP : Advances r fun _ => True) (hf : ∀ b, Forward (f b)) : Advances (r >>= f) Q :=
  .bind hr hP (fun b _ => hf b) fun _ hb => absurd trivial hb

theorem Advances.pure {b : β} {P : β → Prop} (h : ¬P b) : Advances (pure b : Reader β) P := by
  intro c b' c' hc hb'
  cases hc
  exact absurd hb' h

theorem Advances.fail {fault : Fault} {P : β → Prop} :
    Advances (Reader.fail fault : Reader β) P := by
  intro c b c' h
  cases h

theorem Advances.advance {P : Char → Prop} : Advances Reader.advance P := by
  intro c b c' h _
  unfold Reader.advance at h
  split at h
  · cases h
  · next x rest hr =>
    cases h
    simp [hr]

theorem length_drop_lt_of_hasText {text : String} {c : Cursor} (hne : text.toList ≠ [])
    (h : c.hasText text = true) : (c.rest.drop text.toList.length).length < c.rest.length := by
  have hle := (List.isPrefixOf_iff_prefix.mp h).length_le
  have hpos := List.length_pos_iff.mpr hne
  rw [List.length_drop]
  omega

theorem Advances.wordOf {spelling : β → String} {keys : List β}
    (h : ∀ key, (spelling key).toList ≠ []) :
    Advances (Reader.wordOf spelling keys) fun key => key.isSome := by
  intro c b c' hc hb
  unfold Reader.wordOf at hc
  split at hc
  · next key hfind =>
    cases hc
    have hword := List.find?_some hfind
    rw [Cursor.forward_rest]
    exact length_drop_lt_of_hasText (h key) (Bool.and_eq_true_iff.mp hword).1
  · cases hc
    cases hb

end Reader

end Slideshow
