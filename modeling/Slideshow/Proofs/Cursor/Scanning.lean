import Slideshow.Cursor.Scanner
import Slideshow.Proofs.Cursor.Blanks
import Slideshow.Proofs.Cursor.Displacement

/-!
# Scanners and cursors

A scanner that is asked for what it has ahead is a cursor. Whatever it looks up in its text, each
scan comes to the same as the reader of that cursor, so that nothing it does depends on what lies
behind.

## Main definitions

* `Scanner.cursor`: the cursor at the place of a scanner.
* `Scan.Refines`: a scan that comes to the same as a reader.
* `Scanner.Displaced`, `Scanner.Attempt.Displaced`: the same place, and the same attempt, behind
  another text.

## Main statements

* `Scan.Refines.bind`: scans one after the other.
* `Scan.refines_gather`, `Scan.refines_piece`: the loops, and what is cut out of the text between
  two offsets.
* `Scan.refines_operation`, `Scanner.map_attempts`: all operations, and sequences of them.
* `Scanner.attempts_append`: operations in the middle of a text.
-/

namespace Slideshow

variable {text : Array Char}

namespace Scanner

/-- The cursor at the place of a scanner. -/
def cursor (s : Scanner text) : Cursor :=
  ⟨text.toList.drop s.position, s.position, s.line, s.column⟩

theorem cursor_ofText (text : String) : (ofText text).cursor = .ofText text :=
  rfl

theorem rest_cursor (s : Scanner text) : s.cursor.rest = text.toList.drop s.position :=
  rfl

theorem rest_eq_cons (s : Scanner text) (h : s.position < text.size) :
    s.cursor.rest = text[s.position] :: text.toList.drop (s.position + 1) := by
  rw [rest_cursor, List.drop_eq_getElem_cons (by simpa using h), Array.getElem_toList]

theorem rest_eq_nil {s : Scanner text} (h : ¬s.position < text.size) : s.cursor.rest = [] :=
  List.drop_eq_nil_of_le (by simpa using h)

theorem head?_rest (s : Scanner text) : s.cursor.rest.head? = text[s.position]? := by
  rw [rest_cursor, List.head?_drop, Array.getElem?_toList]

theorem cursor_next (s : Scanner text) (h : s.position < text.size) :
    (s.next h).cursor = s.cursor.past text[s.position] (text.toList.drop (s.position + 1)) := by
  rw [next, Cursor.past]
  split <;> rfl

theorem cursor_next_eq_step (s : Scanner text) (h : s.position < text.size) :
    (s.next h).cursor = s.cursor.step := by
  rw [cursor_next, Cursor.step]
  simp only [s.rest_eq_cons h]

/-- A literal text stands at an offset just if what lies ahead of it begins with it. -/
theorem hasTextAt_eq {part : String} {offset : Nat} (h : offset ≤ text.size) :
    hasTextAt text part offset = part.toList.isPrefixOf (text.toList.drop offset) := by
  rw [Bool.eq_iff_iff, List.isPrefixOf_iff_prefix, List.prefix_iff_eq_take, hasTextAt,
    Bool.and_eq_true, beq_iff_eq, ← Array.toList_inj, Array.toList_extract, List.extract,
    Nat.add_sub_cancel_left, decide_eq_true_iff]
  exact ⟨fun hand => hand.2.symm, fun heq => ⟨h, heq.symm⟩⟩

theorem hasText_cursor (s : Scanner text) (part : String) :
    s.cursor.hasText part = hasTextAt text part s.position :=
  (hasTextAt_eq s.inText).symm

theorem atBlank_eq (newlines : Bool) (s : Scanner text) :
    s.atBlank newlines = Cursor.blankAhead newlines s.cursor.rest := by
  rw [atBlank]
  by_cases h : s.position < text.size
  · rw [Array.getElem?_eq_getElem h, s.rest_eq_cons h, Cursor.blankAhead_cons]
    dsimp only
    rw [hasTextAt_eq h]
    rfl
  · rw [Array.getElem?_eq_none (Nat.le_of_not_lt h), rest_eq_nil h]
    rfl

theorem cursor_skipBlanks (newlines : Bool) (s : Scanner text) :
    (s.skipBlanks newlines).cursor = s.cursor.skipBlanks newlines := by
  fun_induction skipBlanks newlines s with
  | case1 s h hblank ih =>
    rw [atBlank_eq] at hblank
    rw [ih, cursor_next_eq_step, Cursor.skipBlanks.eq_def newlines s.cursor, if_pos hblank]
  | case2 s h hblank =>
    rw [atBlank_eq] at hblank
    rw [Cursor.skipBlanks, if_neg hblank]
  | case3 s h =>
    have hblank : ¬Cursor.blankAhead newlines s.cursor.rest = true := by
      rw [rest_eq_nil h]
      exact Bool.false_ne_true
    rw [Cursor.skipBlanks, if_neg hblank]

/-- Characters are gathered as far as they have `p`, and summed up in their order. -/
theorem gather_eq {β : Type} (p : Char → Bool) (add : β → Char → β) (b : β) (s : Scanner text) :
    (s.gather p add b).1 = (s.cursor.rest.takeWhile p).foldl add b ∧
      (s.gather p add b).2.cursor = s.cursor.forward (s.cursor.rest.takeWhile p).length := by
  fun_induction gather p add b s with
  | case1 b s h hp ih =>
    rw [cursor_next_eq_step, Cursor.step_rest, s.rest_eq_cons h, List.tail_cons] at ih
    rw [s.rest_eq_cons h, List.takeWhile_cons_of_pos hp]
    exact ih
  | case2 b s h hp =>
    rw [s.rest_eq_cons h, List.takeWhile_cons_of_neg hp]
    exact ⟨rfl, rfl⟩
  | case3 b s h =>
    rw [rest_eq_nil h]
    exact ⟨rfl, rfl⟩

end Scanner

/-! ### Readers step by step

The readers of literal text take it in one go. Here they are with the steps that a scan makes. -/

namespace Reader

/-- Where a literal text lies ahead, it is taken character by character. -/
theorem advanceBy_of_hasText {part : String} {c : Cursor} (h : c.hasText part = true) :
    advanceBy part.toList.length c = .ok () (c.forward part.toList.length) :=
  advanceBy_eq_ok (List.isPrefixOf_iff_prefix.mp h).length_le

/-- `expect` with its steps: the text is looked for, and taken character by character. -/
theorem expect_eq (part : String) : expect part = (do
    if ← hasText part then advanceBy part.toList.length
    else fail (.expected part)) := by
  funext c
  rw [bind_apply, expect, hasText]
  by_cases h : c.hasText part = true
  · simp only [h, if_true, advanceBy_of_hasText h]
  · simp only [h, Bool.false_eq_true, if_false]

/-- `accept` with its steps. -/
theorem accept_eq (x : Char) : accept x = (do
    if (← peek) = some x then
      let _ ← advance
      return true
    else return false) := by
  funext c
  rw [bind_apply, accept, peek]
  dsimp only
  by_cases h : c.rest.head? = some x
  · obtain ⟨rest, hrest⟩ := List.head?_eq_some_iff.mp h
    rw [if_pos h, if_pos h, bind_apply, advance, Cursor.step]
    simp only [hrest]
    rfl
  · rw [if_neg h, if_neg h]
    rfl

/-- Whether the character `n` places on continues a word. -/
def isContinued (n : Nat) : Reader Bool := fun c =>
  .ok ((c.rest.drop n).head?.any Cursor.isWordChar) c

/-- `word` with its steps: the text is looked for, then the character behind it, and then the
text is taken character by character. -/
theorem word_eq (part : String) : word part = (do
    if ← hasText part then
      if ← isContinued part.toList.length then return false
      advanceBy part.toList.length
      return true
    else return false) := by
  funext c
  rw [bind_apply, word, hasText, Cursor.hasWord]
  by_cases h : c.hasText part = true
  · simp only [h, Bool.true_and, if_true]
    rw [bind_apply, isContinued]
    dsimp only
    cases (c.rest.drop part.toList.length).head?.any Cursor.isWordChar with
    | true => rfl
    | false =>
      show _ = (advanceBy part.toList.length >>= fun _ => Pure.pure true) c
      rw [bind_apply, advanceBy_of_hasText h]
      rfl
  · simp only [h, Bool.false_and, Bool.false_eq_true, if_false]
    rfl

/-- `expect` of a quotation mark, by way of `accept`. -/
theorem expect_quote : expect "\"" = (do
    if ← accept '"' then return () else fail (.expected "\"")) := by
  funext c
  rw [bind_apply, expect, accept, Cursor.hasText]
  cases hrest : c.rest with
  | nil => rfl
  | cons x rest =>
    by_cases hx : x = '"'
    · subst hx
      rfl
    · have hprefix : ¬"\"".toList.isPrefixOf (x :: rest) = true := by
        simpa [List.isPrefixOf] using Ne.symm hx
      have hhead : ¬(x :: rest).head? = some '"' := fun h => hx (Option.some.inj h)
      rw [if_neg hprefix, if_neg hhead]
      rfl

end Reader

namespace Scan

open Reader (isDigit)

variable {β γ δ ε : Type} {R : β → γ → Prop} {S : δ → ε → Prop}

/-- What has come of a scan is what has come of a reader, up to answers that are related. -/
inductive SeenAs (R : β → γ → Prop) : EStateM.Result Failure (Scanner text) β →
    EStateM.Result Failure Cursor γ → Prop
  | ok {b : β} {c : γ} (h : R b c) (s : Scanner text) : SeenAs R (.ok b s) (.ok c s.cursor)
  | error (e : Failure) (s : Scanner text) : SeenAs R (.error e s) (.error e s.cursor)

/-- Wherever it begins, the scan comes to what the reader comes to there. -/
def Refines (R : β → γ → Prop) (scan : Scan text β) (r : Reader γ) : Prop :=
  ∀ s, SeenAs R (scan s) (r s.cursor)

theorem Refines.pure {b : β} {c : γ} (h : R b c) : Refines R (pure b : Scan text β) (pure c) :=
  fun s => .ok h s

theorem Refines.imp {R' : β → γ → Prop} {scan : Scan text β} {r : Reader γ} (h : Refines R scan r)
    (hR : ∀ b c, R b c → R' b c) : Refines R' scan r := by
  intro s
  have hs := h s
  revert hs
  generalize scan s = x, r s.cursor = y
  rintro (⟨hbc, s'⟩ | ⟨e, s'⟩)
  · exact .ok (hR _ _ hbc) s'
  · exact .error e s'

theorem Refines.bind {scan : Scan text β} {r : Reader γ} {f : β → Scan text δ} {g : γ → Reader ε}
    (h : Refines R scan r) (hf : ∀ b c, R b c → Refines S (f b) (g c)) :
    Refines S (scan >>= f) (r >>= g) := by
  intro s
  have hs := h s
  show SeenAs S (EStateM.bind scan f s) (EStateM.bind r g s.cursor)
  unfold EStateM.bind
  revert hs
  generalize scan s = x, r s.cursor = y
  rintro (⟨hbc, s'⟩ | ⟨e, s'⟩)
  · exact hf _ _ hbc s'
  · exact .error e s'

theorem Refines.map {scan : Scan text β} {r : Reader γ} {f : β → δ} {g : γ → ε}
    (h : Refines R scan r) (hf : ∀ b c, R b c → S (f b) (g c)) :
    Refines S (do return f (← scan)) (do return g (← r)) :=
  h.bind fun b c hbc => .pure (hf b c hbc)

/-! ### Literal text -/

variable {α : Type} [Scalar α]

theorem refines_fail (fault : Fault) :
    Refines R (fail fault : Scan text β) (Reader.fail fault) :=
  fun s => .error _ s

theorem refines_require (holds : Bool) (fault : Fault) :
    Refines Eq (require holds fault : Scan text Unit) (Reader.require holds fault) := by
  cases holds with
  | true => exact .pure rfl
  | false => exact refines_fail fault

theorem refines_atEnd : Refines Eq (atEnd : Scan text Bool) Reader.atEnd := by
  intro s
  refine .ok ?_ s
  rw [Scanner.rest_cursor, Bool.eq_iff_iff]
  simp

theorem refines_peek : Refines Eq (peek : Scan text (Option Char)) Reader.peek :=
  fun s => .ok s.head?_rest.symm s

theorem refines_hasText (part : String) :
    Refines Eq (hasText part : Scan text Bool) (Reader.hasText part) :=
  fun s => .ok (s.hasText_cursor part).symm s

theorem refines_advance : Refines Eq (advance : Scan text Char) Reader.advance := by
  intro s
  rw [advance, Reader.advance]
  by_cases h : s.position < text.size
  · simp only [dif_pos h, s.rest_eq_cons h]
    rw [← s.cursor_next h]
    exact .ok rfl _
  · simp only [dif_neg h, Scanner.rest_eq_nil h]
    exact refines_fail .endOfText s

theorem refines_advanceBy (n : Nat) :
    Refines Eq (advanceBy n : Scan text Unit) (Reader.advanceBy n) := by
  induction n with
  | zero => exact .pure rfl
  | succ n ih => exact refines_advance.bind fun _ _ _ => ih

theorem refines_skipBlanks (newlines : Bool) :
    Refines Eq (skipBlanks newlines : Scan text Unit) (Reader.skipBlanks newlines) := by
  intro s
  rw [skipBlanks, Reader.skipBlanks, ← s.cursor_skipBlanks]
  exact .ok rfl _

theorem refines_expect (part : String) :
    Refines Eq (expect part : Scan text Unit) (Reader.expect part) := by
  rw [Reader.expect_eq]
  refine (refines_hasText part).bind ?_
  rintro holds - rfl
  cases holds with
  | true => exact refines_advanceBy _
  | false => exact refines_fail _

theorem refines_accept (x : Char) :
    Refines Eq (accept x : Scan text Bool) (Reader.accept x) := by
  rw [Reader.accept_eq]
  refine refines_peek.bind ?_
  rintro y - rfl
  by_cases hy : y = some x
  · rw [if_pos hy, if_pos hy]
    exact refines_advance.bind fun _ _ _ => .pure rfl
  · rw [if_neg hy, if_neg hy]
    exact .pure rfl

theorem refines_isContinued (n : Nat) :
    Refines Eq (isContinued n : Scan text Bool) (Reader.isContinued n) := by
  intro s
  refine .ok ?_ s
  rw [Scanner.rest_cursor, List.drop_drop, List.head?_drop, Array.getElem?_toList]

theorem refines_word (part : String) :
    Refines Eq (word part : Scan text Bool) (Reader.word part) := by
  rw [Reader.word_eq]
  refine (refines_hasText part).bind ?_
  rintro holds - rfl
  cases holds with
  | false => exact .pure rfl
  | true =>
    refine (refines_isContinued _).bind ?_
    rintro continued - rfl
    cases continued with
    | true => exact .pure rfl
    | false => exact (refines_advanceBy _).bind fun _ _ _ => .pure rfl

/-! ### Values -/

theorem refines_gather (p : Char → Bool) (add : β → Char → β) (b : β) :
    Refines (fun b' run => b' = run.foldl add b) (gather p add b : Scan text β)
      (Reader.span p) := by
  intro s
  obtain ⟨hsum, hcursor⟩ := s.gather_eq p add b
  show SeenAs _ (.ok (s.gather p add b).1 (s.gather p add b).2) (.ok _ _)
  rw [← hcursor]
  refine .ok ?_ _
  exact hsum

theorem foldl_whole (digits : List Char) (value : α) (valid : Bool) :
    digits.foldl (fun (value, _) d => (value * 10 + Reader.digitValue d, true)) (value, valid) =
      (digits.foldl (fun value d => value * 10 + Reader.digitValue d) value,
        valid || !digits.isEmpty) := by
  induction digits generalizing value valid with
  | nil => simp
  | cons d digits ih => simp [ih]

theorem refines_whole :
    Refines (fun b digits => b = (Reader.wholeOf digits, !digits.isEmpty))
      (whole : Scan text (α × Bool)) (Reader.span isDigit) :=
  (refines_gather _ _ _).imp fun _ digits h => h.trans (foldl_whole digits 0 false)

/-- `value` with the digits behind a point added, if there is one. -/
theorem refines_fraction (value : α) :
    Refines Eq (fraction value : Scan text α) (do
      let pointed ← Reader.accept '.'
      return Reader.addPlaces value (← Reader.placesAfter pointed)) := by
  refine (refines_accept '.').bind ?_
  rintro pointed - rfl
  cases pointed with
  | true => exact (refines_gather _ _ _).map fun _ places h => congrArg Prod.fst h
  | false => exact .pure rfl

theorem refines_number : Refines Eq (number : Scan text α) Reader.number := by
  refine (refines_accept '-').bind ?_
  rintro negative - rfl
  refine refines_whole.bind ?_
  rintro _ digits rfl
  refine (refines_require _ _).bind ?_
  rintro _ - rfl
  -- The reader sees the point and the digits behind it as two parts, and the scan as one.
  let signed (magnitude : α) : α := if negative then -magnitude else magnitude
  have hsigned : Refines Eq
      (do return signed (← (fraction (Reader.wholeOf digits) : Scan text α))) _ :=
    (refines_fraction _).map fun _ _ => congrArg signed
  simpa only [bind_assoc, pure_bind] using hsigned

theorem refines_vec : Refines Eq (vec : Scan text (Vec α)) Reader.vec := by
  refine refines_number.bind ?_
  rintro x - rfl
  refine (refines_skipBlanks _).bind fun _ _ _ => (refines_expect _).bind fun _ _ _ =>
    (refines_skipBlanks _).bind fun _ _ _ => refines_number.map ?_
  rintro y - rfl
  rfl

/-- What is cut out of the text is what has been taken meanwhile. -/
theorem refines_piece (p : Char → Bool) :
    Refines (fun piece run => piece = String.ofList run) (piece p : Scan text String)
      (Reader.span p) := by
  intro s
  obtain ⟨-, hcursor⟩ := s.gather_eq p (fun (_ : Unit) _ => ()) ()
  generalize hstop : (s.gather p (fun (_ : Unit) _ => ()) ()).2 = stop at hcursor
  have hpiece :
      piece p s = .ok (String.ofList (text.extract s.position stop.position).toList) stop := by
    rw [← hstop]
    rfl
  -- Both offsets are absolute; that they are as far apart as the run is long says what lies between.
  have hposition : stop.position = s.position + (s.cursor.rest.takeWhile p).length :=
    (congrArg Cursor.position hcursor).trans
      (Cursor.position_forward (List.takeWhile_prefix p).length_le)
  have hrun : (text.extract s.position stop.position).toList = s.cursor.rest.takeWhile p := by
    rw [Array.toList_extract, List.extract, hposition, Nat.add_sub_cancel_left]
    exact (List.prefix_iff_eq_take.mp (List.takeWhile_prefix p)).symm
  rw [hpiece, hrun, Reader.span, ← hcursor]
  refine .ok ?_ stop
  rfl

theorem refines_quoted : Refines Eq (quoted : Scan text String) Reader.quoted := by
  refine (refines_expect _).bind fun _ _ _ => (refines_piece _).bind ?_
  rintro _ run rfl
  rw [Reader.expect_quote]
  simp only [bind_assoc]
  refine (refines_accept _).bind ?_
  rintro closed - rfl
  cases closed with
  | true => exact .pure rfl
  | false => exact refines_fail _

theorem refines_assigned {scan : Scan text β} {r : Reader β} (h : Refines Eq scan r) :
    Refines Eq (assigned scan) (Reader.assigned r) := by
  refine (refines_skipBlanks _).bind fun _ _ _ => (refines_expect _).bind fun _ _ _ =>
    (refines_skipBlanks _).bind fun _ _ _ => h.bind ?_
  rintro b - rfl
  exact (refines_skipBlanks _).map fun _ _ _ => rfl

/-! ### Operations -/

theorem refines_valueKind (kind : Cursor.ValueKind) :
    Refines Eq (kind.scan : Scan text (Cursor.Answer α)) kind.reader := by
  cases kind with
  | number => exact refines_number.map fun _ _ => congrArg _
  | vec => exact refines_vec.map fun _ _ => congrArg _
  | quoted => exact refines_quoted.map fun _ _ => congrArg _

theorem refines_operation (operation : Cursor.Operation) :
    Refines Eq (operation.scan : Scan text (Cursor.Answer α)) operation.reader := by
  cases operation with
  | atEnd => exact refines_atEnd.map fun _ _ => congrArg _
  | peek => exact refines_peek.map fun _ _ => congrArg _
  | hasText part => exact (refines_hasText part).map fun _ _ => congrArg _
  | advance => exact refines_advance.map fun _ _ h => congrArg _ (congrArg some h)
  | advanceBy count => exact (refines_advanceBy _).map fun _ _ _ => rfl
  | skipBlanks newlines => exact (refines_skipBlanks newlines).map fun _ _ _ => rfl
  | expect part => exact (refines_expect part).map fun _ _ _ => rfl
  | word part => exact (refines_word part).map fun _ _ => congrArg _
  | value kind => exact refines_valueKind kind
  | assigned kind => exact refines_assigned (refines_valueKind kind)

end Scan

namespace Scanner

variable {α : Type} [Scalar α]

/-- The attempt as it is seen from the cursor. -/
def Attempt.seen (attempt : Attempt text α) : Cursor.Attempt α :=
  ⟨attempt.result, attempt.scanner.cursor⟩

theorem seen_attempt (operation : Cursor.Operation) (s : Scanner text) :
    (attempt α operation s).seen = operation.attempt α s.cursor := by
  have hseen := Scan.refines_operation (α := α) operation s
  rw [attempt, Cursor.Operation.attempt]
  revert hseen
  generalize (operation.scan : Scan text (Cursor.Answer α)) s = x,
    (operation.reader : Reader (Cursor.Answer α)) s.cursor = y
  rintro (⟨rfl, s'⟩ | ⟨e, s'⟩) <;> rfl

/-- Sequences of operations come to the same, too. -/
theorem map_attempts (s : Scanner text) (operations : List Cursor.Operation) :
    (s.attempts α operations).map Attempt.seen = s.cursor.attempts α operations := by
  induction operations generalizing s with
  | nil => rfl
  | cons operation operations ih =>
    rw [attempts, Cursor.attempts, List.map_cons, ih, ← seen_attempt]
    rfl

/-! ### Texts one behind the other -/

/-- Where `fresh` stands in `text`, `moved` stands in `before ++ text`. Only on the first line of
`text` do the columns differ, for that line has begun in `before`. -/
structure Displaced (before text : String) (fresh : Scanner text.toList.toArray)
    (moved : Scanner (before ++ text).toList.toArray) : Prop where
  position : moved.position = fresh.position + before.toList.length
  line : moved.line = fresh.line + before.toList.count '\n'
  column_of_mem : '\n' ∈ text.toList.take fresh.position → moved.column = fresh.column
  column_of_not_mem : '\n' ∉ text.toList.take fresh.position →
    moved.column = fresh.column + (Cursor.lastLine before.toList).length

/-- The same answer or the same message, at the same place behind another text. -/
structure Attempt.Displaced (before text : String) (fresh : Attempt text.toList.toArray α)
    (moved : Attempt (before ++ text).toList.toArray α) : Prop where
  result : moved.result.mapError Failure.message = fresh.result.mapError Failure.message
  scanner : Scanner.Displaced before text fresh.scanner moved.scanner

theorem displaced_of_cursor {before text : String} {fresh : Scanner text.toList.toArray}
    {moved : Scanner (before ++ text).toList.toArray}
    (h : Cursor.Displaced before.toList text.toList fresh.cursor moved.cursor) :
    Displaced before text fresh moved :=
  ⟨h.position, h.line, h.column_of_mem, h.column_of_not_mem⟩

/-- Reading depends on what lies ahead only. Go over the first of two texts that stand one behind
the other, and try any operations from there, which look things up in the whole of the two texts:
each of them answers, or fails, as it does in the second text by itself. All positions and lines are
greater by what the first text takes up, and so are the columns until the first line end of the
second text has been passed. -/
theorem attempts_append (before text : String) (operations : List Cursor.Operation) :
    ∃ start, Scan.advanceBy before.toList.length (ofText (before ++ text)) = .ok () start ∧
      Displaced before text (ofText text) start ∧
      List.Forall₂ (Attempt.Displaced before text)
        ((ofText text).attempts α operations) (start.attempts α operations) := by
  obtain ⟨start, hstart, hdisplaced, hattempts⟩ :=
    Cursor.displaced_attempts (α := α) before text operations
  have hseen := Scan.refines_advanceBy before.toList.length (ofText (before ++ text))
  rw [cursor_ofText, hstart] at hseen
  revert hseen
  generalize Scan.advanceBy before.toList.length (ofText (before ++ text)) = x
  rintro ⟨-, start⟩
  refine ⟨start, rfl, displaced_of_cursor hdisplaced, ?_⟩
  rw [← cursor_ofText, ← map_attempts, ← map_attempts, List.forall₂_map_left_iff,
    List.forall₂_map_right_iff] at hattempts
  exact hattempts.imp fun _ _ h => ⟨h.result, displaced_of_cursor h.cursor⟩

end Scanner

end Slideshow
