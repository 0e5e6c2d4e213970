import Slideshow.Proofs.Cursor.Taken

/-!
# Line ends of two characters

A text keeps its meaning if each of its line feeds gets a carriage return before it. Of two cursors
that read the two texts side by side, one may stand inside a line end that the other stands before,
because blanks were skipped there; everywhere else they stand at the same place.

## Main definitions

* `LineEnding.expand`: a text with line ends of two characters.
* `Cursor.Level`, `Cursor.Within`: the two ways to stand side by side.
* `Reader.Alongside`: readers that keep side by side what stands so.

## Main statements

* `Reader.alongside_skipBlanks_true`: the next character that is not blank is the same in both.
* `Reader.alongside_expect_newline`: behind skipped spaces a line end is one character in both.
* `Reader.meet_quoted`: quoted texts agree where they stay on one line.
-/

namespace Slideshow

namespace LineEnding

/-- The characters with a carriage return before each line feed. -/
def expandAll : List Char → List Char
  | [] => []
  | x :: rest => if x = '\n' then '\r' :: '\n' :: expandAll rest else x :: expandAll rest

/-- The text with line ends of two characters. -/
def expand (text : String) : String :=
  String.ofList (expandAll text.toList)

@[simp] theorem expandAll_newline (rest : List Char) :
    expandAll ('\n' :: rest) = '\r' :: '\n' :: expandAll rest :=
  rfl

theorem expandAll_cons {x : Char} (h : x ≠ '\n') (rest : List Char) :
    expandAll (x :: rest) = x :: expandAll rest :=
  if_neg h

theorem expandAll_of_not_mem {l : List Char} (h : '\n' ∉ l) : expandAll l = l := by
  induction l with
  | nil => rfl
  | cons x l ih =>
    rw [expandAll_cons (List.ne_of_not_mem_cons h).symm, ih (List.not_mem_of_not_mem_cons h)]

theorem expandAll_eq_nil {l : List Char} : expandAll l = [] ↔ l = [] := by
  cases l with
  | nil => simp [expandAll]
  | cons x l =>
    by_cases hx : x = '\n'
    · simp [hx]
    · simp [expandAll_cons hx]

theorem takeWhile_expandAll {p : Char → Bool} (hp : p '\r' = p '\n') (l : List Char) :
    (expandAll l).takeWhile p = expandAll (l.takeWhile p) := by
  induction l with
  | nil => rfl
  | cons x l ih =>
    by_cases hx : x = '\n'
    · subst hx
      cases h : p '\n' <;> simp [hp, h, ih, expandAll]
    · rw [expandAll_cons hx, List.takeWhile_cons, List.takeWhile_cons]
      split
      · rw [expandAll_cons hx, ih]
      · rfl

theorem any_head?_expandAll {p : Char → Bool} (hp : p '\r' = p '\n') (l : List Char) :
    (expandAll l).head?.any p = l.head?.any p := by
  cases l with
  | nil => rfl
  | cons x l =>
    by_cases hx : x = '\n'
    · simp [hx, hp]
    · simp [expandAll_cons hx]

/-- A word is found in one text where it is found in the other. -/
theorem isPrefixOf_expandAll {word : List Char} (hword : ∀ x ∈ word, x ≠ '\n' ∧ x ≠ '\r')
    (l : List Char) : word.isPrefixOf (expandAll l) = word.isPrefixOf l := by
  induction word generalizing l with
  | nil => simp
  | cons x word ih =>
    obtain ⟨⟨hnewline, hreturn⟩, hword⟩ := List.forall_mem_cons.mp hword
    cases l with
    | nil => rfl
    | cons y l =>
      by_cases hy : y = '\n'
      · simp [hy, beq_false_of_ne hnewline, beq_false_of_ne hreturn, List.isPrefixOf]
      · simp [expandAll_cons hy, List.isPrefixOf, ih hword]

end LineEnding

open LineEnding

namespace Cursor

/-- Two cursors at the same place, one in a text without carriage returns and one in that text with
line ends of two characters. -/
structure Level (c d : Cursor) : Prop where
  rest : d.rest = expandAll c.rest
  plain : '\r' ∉ c.rest
  line : d.line = c.line
  column : d.column = c.column

/-- One cursor stands before a line end and the other one inside of it. -/
structure Within (c d : Cursor) : Prop where
  rest : ∃ rest, c.rest = '\n' :: rest ∧ d.rest = '\n' :: expandAll rest
  plain : '\r' ∉ c.rest
  line : d.line = c.line
  column : d.column = c.column + 1

def Beside (c d : Cursor) : Prop :=
  Level c d ∨ Within c d

/-- Two cursors behind skipped blanks. -/
def AtWord (c d : Cursor) : Prop :=
  Level c d ∧ c.rest.head? ≠ some '\n'

/-- Two cursors behind skipped spaces. -/
def Stopped (c d : Cursor) : Prop :=
  AtWord c d ∨ Within c d

variable {c d : Cursor}

theorem Stopped.beside (h : Stopped c d) : Beside c d :=
  h.imp_left And.left

theorem Level.beside (h : Level c d) : Beside c d :=
  .inl h

theorem Beside.line (h : Beside c d) : d.line = c.line :=
  h.elim Level.line Within.line

theorem Beside.column (h : Beside c d) : d.column = c.column ∨ d.column = c.column + 1 :=
  h.imp Level.column Within.column

theorem Beside.isEmpty (h : Beside c d) : d.rest.isEmpty = c.rest.isEmpty := by
  obtain h | ⟨⟨rest, hc, hd⟩, -, -, -⟩ := h
  · rw [h.rest, Bool.eq_iff_iff, List.isEmpty_iff, List.isEmpty_iff, expandAll_eq_nil]
  · rw [hc, hd]
    rfl

theorem Stopped.head? (h : Stopped c d) : d.rest.head? = c.rest.head? := by
  obtain ⟨h, hhead⟩ | ⟨⟨rest, hc, hd⟩, -, -, -⟩ := h
  · rw [h.rest]
    cases hc : c.rest with
    | nil => rfl
    | cons x rest =>
      rw [hc] at hhead
      rw [expandAll_cons (by simpa using hhead)]
      rfl
  · rw [hc, hd]
    rfl

theorem AtWord.step (h : AtWord c d) : Level c.step d.step := by
  obtain ⟨⟨hrest, hplain, hline, hcolumn⟩, hhead⟩ := h
  cases hc : c.rest with
  | nil =>
    have hd : d.rest = [] := by rw [hrest, hc]; rfl
    rw [Cursor.step, Cursor.step, hc, hd]
    exact ⟨hrest, hplain, hline, hcolumn⟩
  | cons x rest =>
    have hx : x ≠ '\n' := by simpa [hc] using hhead
    have hd : d.rest = x :: expandAll rest := by rw [hrest, hc, expandAll_cons hx]
    rw [hc] at hplain
    simp only [Cursor.step, hc, hd, Cursor.past, if_neg hx]
    exact ⟨rfl, List.not_mem_of_not_mem_cons hplain, hline, congrArg (· + 1) hcolumn⟩

theorem Level.step_within {rest : List Char} (h : Level c d) (hc : c.rest = '\n' :: rest) :
    Within c d.step := by
  have hd : d.rest = '\r' :: '\n' :: expandAll rest := by rw [h.rest, hc]; rfl
  refine ⟨⟨rest, hc, by simp [hd]⟩, h.plain, ?_, ?_⟩ <;>
    simp [Cursor.step, hd, Cursor.past, h.line, h.column]

theorem Within.step (h : Within c d) : Level c.step d.step := by
  obtain ⟨⟨rest, hc, hd⟩, hplain, hline, -⟩ := h
  rw [hc] at hplain
  rw [Cursor.step, Cursor.step, hc, hd]
  exact ⟨rfl, List.not_mem_of_not_mem_cons hplain, congrArg (· + 1) hline, rfl⟩

/-- Both cursors move on over some characters. -/
theorem Level.forward {run tail : List Char} (h : Level c d) (hrest : c.rest = run ++ tail) :
    Level (c.forward run.length) (d.forward (expandAll run).length) := by
  induction run generalizing c d with
  | nil => exact h
  | cons x run ih =>
    have htail : c.step.rest = run ++ tail := by rw [step_rest, hrest]; rfl
    by_cases hx : x = '\n'
    · subst hx
      exact ih (h.step_within hrest).step htail
    · rw [expandAll_cons hx]
      exact ih (AtWord.step ⟨h, by simpa [hrest] using hx⟩) htail

theorem blankAhead_cons_of_ne {x : Char} (hx : x ≠ '\r') (newlines : Bool) (rest : List Char) :
    blankAhead newlines (x :: rest) = (x == ' ' || (newlines && x == '\n')) := by
  rw [blankAhead_cons, beq_false_of_ne hx, Bool.false_and, Bool.or_false]

/-- A character ahead that is neither a line feed nor a carriage return is blank in both texts or in
none. -/
theorem AtWord.blankAhead (h : AtWord c d) (newlines : Bool) :
    Cursor.blankAhead newlines d.rest = Cursor.blankAhead newlines c.rest := by
  obtain ⟨h, hhead⟩ := h
  have hplain := h.plain
  rw [h.rest]
  cases hc : c.rest with
  | nil => rfl
  | cons x rest =>
    rw [hc] at hhead hplain
    have hreturn := (List.ne_of_not_mem_cons hplain).symm
    rw [expandAll_cons (by simpa using hhead), blankAhead_cons_of_ne hreturn,
      blankAhead_cons_of_ne hreturn]

theorem Within.not_blankAhead (h : Within c d) :
    Cursor.blankAhead false c.rest = false ∧ Cursor.blankAhead false d.rest = false := by
  obtain ⟨⟨rest, hc, hd⟩, -, -, -⟩ := h
  rw [hc, hd]
  exact ⟨rfl, rfl⟩

theorem Level.cases (h : Level c d) : AtWord c d ∨ ∃ rest, c.rest = '\n' :: rest := by
  by_cases hhead : c.rest.head? = some '\n'
  · obtain ⟨rest, hc⟩ := List.head?_eq_some_iff.mp hhead
    exact .inr ⟨rest, hc⟩
  · exact .inl ⟨h, hhead⟩

/-- Behind skipped spaces a line end is one character in both texts. -/
theorem Beside.skipBlanks_false (h : Beside c d) :
    Stopped (c.skipBlanks false) (d.skipBlanks false) := by
  obtain h | h := h
  · fun_induction Cursor.skipBlanks false c generalizing d with
    | case1 c hblank ih =>
      obtain h | ⟨rest, hc⟩ := h.cases
      · rw [skipBlanks_of_blankAhead ((h.blankAhead false).trans hblank)]
        exact ih h.step
      · rw [hc] at hblank
        cases hblank
    | case2 c hblank =>
      obtain h | ⟨rest, hc⟩ := h.cases
      · rw [skipBlanks_of_not_blankAhead ((h.blankAhead false).trans (by simpa using hblank))]
        exact .inl h
      · -- The carriage return is a blank, the line feed behind it is none here.
        have hd : Cursor.blankAhead false d.rest = true := by rw [h.rest, hc]; rfl
        have hwithin := h.step_within hc
        rw [skipBlanks_of_blankAhead hd, skipBlanks_of_not_blankAhead hwithin.not_blankAhead.2]
        exact .inr hwithin
  · rw [skipBlanks_of_not_blankAhead h.not_blankAhead.1,
      skipBlanks_of_not_blankAhead h.not_blankAhead.2]
    exact .inr h

theorem Level.skipBlanks_true (h : Level c d) :
    AtWord (c.skipBlanks true) (d.skipBlanks true) := by
  fun_induction Cursor.skipBlanks true c generalizing d with
  | case1 c hblank ih =>
    obtain h | ⟨rest, hc⟩ := h.cases
    · rw [skipBlanks_of_blankAhead ((h.blankAhead true).trans hblank)]
      exact ih h.step
    · -- One text has one blank to skip and the other one two.
      have hd : Cursor.blankAhead true d.rest = true := by rw [h.rest, hc]; rfl
      have hwithin := h.step_within hc
      have hd' : Cursor.blankAhead true d.step.rest = true := by
        obtain ⟨⟨_, _, hd'⟩, -, -, -⟩ := hwithin
        rw [hd']
        rfl
      rw [skipBlanks_of_blankAhead hd, skipBlanks_of_blankAhead hd']
      exact ih hwithin.step
  | case2 c hblank =>
    obtain h | ⟨rest, hc⟩ := h.cases
    · rw [skipBlanks_of_not_blankAhead ((h.blankAhead true).trans (by simpa using hblank))]
      exact h
    · rw [hc] at hblank
      exact absurd rfl hblank

/-- The next character that is not blank is the same in both texts. -/
theorem Beside.skipBlanks_true (h : Beside c d) :
    AtWord (c.skipBlanks true) (d.skipBlanks true) := by
  obtain h | h := h
  · exact h.skipBlanks_true
  · obtain ⟨⟨rest, hc, hd⟩, -, -, -⟩ := id h
    rw [skipBlanks_of_blankAhead (c := c) (by rw [hc]; rfl),
      skipBlanks_of_blankAhead (c := d) (by rw [hd]; rfl)]
    exact h.step.skipBlanks_true

/-- Whether a text on one line lies ahead. -/
theorem Beside.hasText (h : Beside c d) {text : String}
    (htext : ∀ x ∈ text.toList, x ≠ '\n' ∧ x ≠ '\r') : d.hasText text = c.hasText text := by
  unfold Cursor.hasText
  obtain h | ⟨⟨rest, hc, hd⟩, -, -, -⟩ := h
  · rw [h.rest, isPrefixOf_expandAll htext]
  · rw [hc, hd]
    cases hlist : text.toList with
    | nil => rfl
    | cons x word =>
      have hx : (x == '\n') = false := beq_false_of_ne (htext x (by simp [hlist])).1
      simp [List.isPrefixOf, hx]

theorem Level.forward_word {text : String} (h : Level c d)
    (htext : ∀ x ∈ text.toList, x ≠ '\n' ∧ x ≠ '\r') (hahead : c.hasText text = true) :
    Level (c.forward text.toList.length) (d.forward text.toList.length) := by
  obtain ⟨tail, htail⟩ := hasText_iff.mp hahead
  have hforward := h.forward htail.symm
  rwa [expandAll_of_not_mem fun hmem => (htext _ hmem).1 rfl] at hforward

theorem Level.hasWord {word : String} (h : Level c d)
    (hword : ∀ x ∈ word.toList, x ≠ '\n' ∧ x ≠ '\r') : d.hasWord word = c.hasWord word := by
  have htext := h.beside.hasText hword
  unfold Cursor.hasWord
  cases hahead : c.hasText word with
  | false => rw [htext, hahead, Bool.false_and, Bool.false_and]
  | true =>
    have hbehind := (h.forward_word hword hahead).rest
    rw [forward_rest, forward_rest] at hbehind
    rw [htext, hahead, hbehind, any_head?_expandAll rfl]

end Cursor

/-- The same complaint, at most one column further on. -/
def Failure.Near : Failure → Failure → Prop
  | .grammar fault line column, .grammar fault' line' column' =>
    fault' = fault ∧ line' = line ∧ (column' = column ∨ column' = column + 1)
  | .conversion kind, .conversion kind' => kind' = kind
  | _, _ => False

namespace Reader

open Cursor

variable {β γ : Type} {P Q R : Cursor → Cursor → Prop} {c d : Cursor}

/-- Equal answers at cursors in `Q`, or failures near each other. -/
def Meet (Q : Cursor → Cursor → Prop) :
    EStateM.Result Failure Cursor β → EStateM.Result Failure Cursor β → Prop
  | .ok b c, .ok b' d => b' = b ∧ Q c d
  | .error e _, .error e' _ => e.Near e'
  | _, _ => False

theorem Meet.cases {r s : EStateM.Result Failure Cursor β} (h : Meet Q r s) :
    (∃ e e' c d, r = .error e c ∧ s = .error e' d ∧ e.Near e') ∨
      ∃ b c d, r = .ok b c ∧ s = .ok b d ∧ Q c d := by
  cases r with
  | error e c =>
    cases s with
    | error e' d => exact .inl ⟨e, e', c, d, rfl, rfl, h⟩
    | ok b d => exact h.elim
  | ok b c =>
    cases s with
    | error e d => exact h.elim
    | ok b' d => exact .inr ⟨b, c, d, rfl, by rw [h.1], h.2⟩

theorem Meet.bind {r : Reader β} {f g : β → Reader γ} (h : Meet Q (r c) (r d))
    (hf : ∀ b c' d', r c = .ok b c' → Q c' d' → Meet R (f b c') (g b d')) :
    Meet R ((r >>= f) c) ((r >>= g) d) := by
  rw [bind_apply, bind_apply]
  obtain ⟨e, e', c', d', hc, hd, hnear⟩ | ⟨b, c', d', hc, hd, hQ⟩ := h.cases
  · rw [hc, hd]
    exact hnear
  · rw [hc, hd]
    exact hf b c' d' hc hQ

theorem Meet.imp {r s : EStateM.Result Failure Cursor β} (h : Meet P r s)
    (hPQ : ∀ c d, P c d → Q c d) : Meet Q r s := by
  obtain ⟨e, e', c, d, rfl, rfl, hnear⟩ | ⟨b, c, d, rfl, rfl, hP⟩ := h.cases
  · exact hnear
  · exact ⟨rfl, hPQ c d hP⟩

/-- From cursors in `P` the reader gives equal answers and comes to cursors in `Q`, or it fails at
both of them. -/
def Alongside (P Q : Cursor → Cursor → Prop) (r : Reader β) : Prop :=
  ∀ c d, P c d → Meet Q (r c) (r d)

theorem Alongside.bind {r : Reader β} {f : β → Reader γ} (h : Alongside P Q r)
    (hf : ∀ b, Alongside Q R (f b)) : Alongside P R (r >>= f) :=
  fun c d hP => (h c d hP).bind fun b c' d' _ hQ => hf b c' d' hQ

theorem Alongside.pure (b : β) : Alongside P P (pure b : Reader β) :=
  fun _ _ h => ⟨rfl, h⟩

theorem meet_fail (h : Beside c d) (fault : Fault) :
    Meet Q (fail fault c : EStateM.Result Failure Cursor β) (fail fault d) :=
  ⟨rfl, h.line, h.column⟩

theorem Alongside.require (hP : ∀ c d, P c d → Beside c d) (holds : Bool) (fault : Fault) :
    Alongside P P (require holds fault) := by
  intro c d h
  unfold Reader.require
  split
  · exact ⟨rfl, h⟩
  · exact meet_fail (hP c d h) fault

theorem Alongside.ofExcept (x : Except NonFinite β) : Alongside P P (ofExcept x) := by
  intro c d h
  cases x with
  | ok b => exact ⟨rfl, h⟩
  | error kind => exact rfl

theorem Alongside.atEnd (hP : ∀ c d, P c d → Beside c d) : Alongside P P atEnd :=
  fun c d h => ⟨(hP c d h).isEmpty, h⟩

theorem Alongside.skipBlanks_false : Alongside Beside Stopped (skipBlanks false) :=
  fun _ _ h => ⟨rfl, h.skipBlanks_false⟩

theorem Alongside.skipBlanks_true : Alongside Beside AtWord (skipBlanks true) :=
  fun _ _ h => ⟨rfl, h.skipBlanks_true⟩

theorem Alongside.mono {P' : Cursor → Cursor → Prop} {r : Reader β} (h : Alongside P Q r)
    (hP : ∀ c d, P' c d → P c d) : Alongside P' Q r :=
  fun c d h' => h c d (hP c d h')

theorem Alongside.expect {text : String} (hne : text.toList ≠ [])
    (htext : ∀ x ∈ text.toList, x ≠ '\n' ∧ x ≠ '\r') : Alongside Beside Level (expect text) := by
  intro c d h
  unfold Reader.expect
  rw [h.hasText htext]
  cases hahead : c.hasText text with
  | false => exact meet_fail h _
  | true =>
    obtain h | ⟨⟨rest, hc, -⟩, -, -, -⟩ := h
    · exact ⟨rfl, h.forward_word htext hahead⟩
    · obtain ⟨x, word, hlist⟩ := List.exists_cons_of_ne_nil hne
      rw [Cursor.hasText, hc, hlist] at hahead
      simp only [List.isPrefixOf, Bool.and_eq_true, beq_iff_eq] at hahead
      exact absurd hahead.1 (htext x (by simp [hlist])).1

/-- Behind skipped spaces a line end is taken from both texts or from none. -/
theorem Alongside.expect_newline : Alongside Stopped Level (Reader.expect "\n") := by
  intro c d h
  have hhead := h.head?
  have hahead : ∀ c : Cursor, c.hasText "\n" = (c.rest.head? == some '\n') := by
    intro c
    unfold Cursor.hasText
    cases c.rest with
    | nil => rfl
    | cons x rest =>
      have htext : "\n".toList = ['\n'] := rfl
      rw [Bool.eq_iff_iff, htext]
      simp [List.isPrefixOf, eq_comm (a := x)]
  unfold Reader.expect
  rw [hahead, hahead, hhead]
  obtain h | h := id h
  · rw [beq_false_of_ne h.2]
    exact meet_fail h.1.beside _
  · obtain ⟨⟨rest, hc, hd⟩, -, -, -⟩ := id h
    rw [hc]
    exact ⟨rfl, h.step⟩

theorem Alongside.accept {x : Char} (hnewline : x ≠ '\n') (hreturn : x ≠ '\r') :
    Alongside Level Level (accept x) := by
  intro c d h
  unfold Reader.accept
  obtain hword | ⟨rest, hc⟩ := h.cases
  · rw [Stopped.head? (.inl hword)]
    split
    · exact ⟨rfl, hword.step⟩
    · exact ⟨rfl, h⟩
  · -- The characters ahead differ, but neither of them is `x`.
    have hd : d.rest = '\r' :: '\n' :: expandAll rest := by rw [h.rest, hc]; rfl
    rw [hc, hd, if_neg (by simpa using hnewline.symm), if_neg (by simpa using hreturn.symm)]
    exact ⟨rfl, h⟩

/-- A run of characters has a carriage return for every line end in the other text. -/
theorem span_expandAll {p : Char → Bool} (hp : p '\r' = p '\n') (h : Level c d) :
    ∃ c' d', span p c = .ok (c.rest.takeWhile p) c' ∧
      span p d = .ok (expandAll (c.rest.takeWhile p)) d' ∧ Level c' d' := by
  refine ⟨_, _, rfl, ?_, h.forward (List.takeWhile_append_dropWhile (p := p)).symm⟩
  rw [← takeWhile_expandAll hp, ← h.rest]
  rfl

theorem Alongside.span {p : Char → Bool} (hreturn : p '\r' = false) (hnewline : p '\n' = false) :
    Alongside Level Level (span p) := by
  intro c d h
  obtain ⟨c', d', hc, hd, hlevel⟩ := span_expandAll (hreturn.trans hnewline.symm) h
  have hrun : '\n' ∉ c.rest.takeWhile p := fun hmem => by
    have := List.all_eq_true.mp (List.all_takeWhile (l := c.rest) (p := p)) _ hmem
    rw [hnewline] at this
    cases this
  rw [expandAll_of_not_mem hrun] at hd
  rw [hc, hd]
  exact ⟨rfl, hlevel⟩

theorem Alongside.wordOf {spelling : β → String} (keys : List β)
    (hword : ∀ key, ∀ x ∈ (spelling key).toList, isWordChar x = true) :
    Alongside Level Level (wordOf spelling keys) := by
  intro c d hlevel
  have h : ∀ key, ∀ x ∈ (spelling key).toList, x ≠ '\n' ∧ x ≠ '\r' := by
    intro key x hx
    have hx := hword key x hx
    constructor <;> rintro rfl <;> exact absurd hx (by decide)
  have hwords : (fun key => d.hasWord (spelling key)) = fun key => c.hasWord (spelling key) :=
    funext fun key => hlevel.hasWord (h key)
  unfold Reader.wordOf
  rw [hwords]
  split
  · next key hfind =>
    have hword := List.find?_some hfind
    exact ⟨rfl, hlevel.forward_word (h key) (Bool.and_eq_true_iff.mp hword).1⟩
  · exact ⟨rfl, hlevel⟩

/-! ### Values -/

variable {α : Type} [Scalar α]

theorem number_of_newline {rest : List Char} (h : c.rest = '\n' :: rest) :
    (number : Reader α) c = fail .noNumber c := by
  have hdigits : span isDigit c = .ok [] c := by
    unfold Reader.span
    rw [h]
    rfl
  simp only [number, bind_apply, Reader.accept, h]
  rw [if_neg (by simp)]
  simp only [hdigits]
  rfl

theorem Alongside.number : Alongside Beside Level (number : Reader α) := by
  intro c d h
  obtain h | h := h
  · have hplaces : ∀ pointed, Alongside Level Level (placesAfter pointed) := by
      intro pointed
      unfold placesAfter
      split
      · exact .span rfl rfl
      · exact .pure _
    refine Alongside.bind (.accept (by decide) (by decide)) (fun _ => .bind (.span rfl rfl)
      fun _ => .bind (.require (fun _ _ => Level.beside) _ _) fun _ =>
      .bind (.accept (by decide) (by decide)) fun _ => .bind (hplaces _) fun _ => .pure _) c d h
  · obtain ⟨⟨rest, hc, hd⟩, -, -, -⟩ := id h
    rw [number_of_newline hc, number_of_newline hd]
    exact meet_fail (.inr h) _

theorem Alongside.spaces : Alongside Level Beside (Reader.skipBlanks false) :=
  fun _ _ h => ⟨rfl, h.beside.skipBlanks_false.beside⟩

theorem Alongside.vec : Alongside Beside Level (vec : Reader (Vec α)) :=
  .bind .number fun _ => .bind .spaces fun _ => .bind (.expect (by simp) (by simp)) fun _ =>
    .bind .spaces fun _ => .bind .number fun _ => .pure _

theorem Alongside.integer : Alongside Beside Level (integer α) :=
  .bind .number fun _ => .ofExcept _

/-- The characters of the quoted text ahead, and none if it does not end. -/
def quotedContent (c : Cursor) : List Char :=
  match quoted c with
  | .ok name _ => name.toList
  | .error .. => []

/-- A quoted text is the same in both texts if it stays on one line. -/
theorem meet_quoted (h : Beside c d) (hline : '\n' ∉ quotedContent c) :
    Meet Level (quoted c) (quoted d) := by
  have hexpect : Alongside Beside Level (Reader.expect "\"") := .expect (by simp) (by simp)
  refine (hexpect c d h).bind fun _ c' d' hc hlevel => ?_
  obtain ⟨c₂, d₂, hrun, hrun', hlevel₂⟩ := span_expandAll (p := (· != '"')) rfl hlevel
  have hend := hexpect c₂ d₂ hlevel₂.beside
  rw [bind_apply, bind_apply, hrun, hrun']
  show Meet Level ((Reader.expect "\"" >>= _) c₂) ((Reader.expect "\"" >>= _) d₂)
  refine hend.bind fun _ c₃ d₃ hc₃ hlevel₃ => ?_
  -- Only now is it known that the text ends, and so that it has no line end.
  have hquoted : quoted c = .ok (String.ofList (c'.rest.takeWhile (· != '"'))) c₃ := by
    simp only [quoted, bind_apply, hc, hrun, hc₃]
    rfl
  simp only [quotedContent, hquoted, String.toList_ofList] at hline
  rw [expandAll_of_not_mem hline]
  exact ⟨rfl, hlevel₃⟩

/-- The content of what follows a reader. -/
def contentAfter (r : Reader β) (content : Cursor → List Char) (c : Cursor) : List Char :=
  match r c with
  | .ok _ c' => content c'
  | .error .. => []

theorem Meet.bind_content {r : Reader β} {f : β → Reader γ} {content : Cursor → List Char}
    (h : Meet Q (r c) (r d)) (hcontent : '\n' ∉ contentAfter r content c)
    (hf : ∀ b c' d', Q c' d' → '\n' ∉ content c' → Meet R (f b c') (f b d')) :
    Meet R ((r >>= f) c) ((r >>= f) d) := by
  refine h.bind fun b c' d' hc hQ => hf b c' d' hQ ?_
  rwa [contentAfter, hc] at hcontent

theorem Alongside.equals : Alongside Beside Stopped equals :=
  .bind .skipBlanks_false fun _ =>
    .bind (Alongside.mono (.expect (by simp) (by simp)) fun _ _ => Stopped.beside) fun _ =>
      Alongside.skipBlanks_false.mono fun _ _ => Level.beside

theorem meet_assigned {value : Reader β} {content : Cursor → List Char}
    (hvalue : ∀ c d, Beside c d → '\n' ∉ content c → Meet Level (value c) (value d))
    (h : Beside c d) (hcontent : '\n' ∉ contentAfter equals content c) :
    Meet Stopped (assigned value c) (assigned value d) := by
  have hspaces : ∀ b : β, Alongside Level Stopped (Reader.skipBlanks false >>= fun _ => pure b) :=
    fun b => .bind (Alongside.skipBlanks_false.mono fun _ _ => Level.beside) fun _ => .pure b
  rw [assigned_eq]
  exact (Alongside.equals c d h).bind_content hcontent fun _ c' d' hstopped hline =>
    (hvalue c' d' hstopped.beside hline).bind fun b c₂ d₂ _ hlevel => hspaces b c₂ d₂ hlevel

theorem Alongside.assigned {value : Reader β} (hvalue : Alongside Beside Level value) :
    Alongside Beside Stopped (assigned value) := by
  intro c d h
  have hnone : '\n' ∉ contentAfter Reader.equals (fun _ => []) c := by
    unfold contentAfter
    split <;> exact List.not_mem_nil
  exact meet_assigned (fun c d h _ => hvalue c d h) h hnone

end Reader

end Slideshow
