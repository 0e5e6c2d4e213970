import Slideshow.Proofs.Cursor.LineEnds
import Slideshow.Proofs.Description.Outcome

/-!
# Descriptions with line ends of two characters

A description means the same, and is complained about on the same line, whether its lines end with a
line feed or with a carriage return and a line feed. Only where a line end is itself content, inside
quotation marks or as the row of a cell, there is a difference.

## Main definitions

* `Dialect.contents`: the characters that a description has as content.

## Main statements

* `Dialect.meet_phrase`: the next phrase is the same with either kind of line end.
* `Reading.parse_expand`: so is what a description amounts to.
-/

namespace Slideshow

open LineEnding Cursor

namespace Dialect

open Reader

variable {α : Type} [Scalar α] {c d : Cursor}

/-! ### Assignments and blocks -/

theorem alongside_endAssignment (dialect : Dialect) (inBlock : Bool) :
    Alongside Stopped Beside (dialect.endAssignment inBlock) := by
  intro c d h
  unfold endAssignment
  rw [h.beside.isEmpty, h.head?]
  split
  · exact ⟨rfl, h.beside⟩
  · exact (Alongside.expect_newline c d h).imp fun _ _ => Level.beside

theorem alongside_value (key : Key) :
    Alongside Beside Stopped (value key : Reader (Property α)) := by
  cases key
  case position => exact .bind (.assigned .vec) fun _ => .pure _
  case size => exact .bind (.assigned .vec) fun _ => .pure _
  all_goals exact .bind (.assigned .number) fun _ => .pure _

theorem alongside_propertyOf (dialect : Dialect) (key : Option Key) :
    Alongside Level Beside (dialect.propertyOf key : Reader (Option (Property α))) := by
  intro c d h
  cases key with
  | none => exact meet_fail h.beside _
  | some key =>
    exact Alongside.bind (alongside_value key)
      (fun _ => .bind (dialect.alongside_endAssignment true) fun _ => .pure _) c d h.beside

theorem alongside_property (dialect : Dialect) :
    Alongside Beside Beside (dialect.property : Reader (Option (Property α))) := by
  have hbeside : ∀ c d, AtWord c d → Beside c d := fun c d h => h.1.beside
  have hunless : ∀ closed, Alongside Level Beside
      (dialect.propertyUnless closed : Reader (Option (Property α))) := by
    intro closed
    unfold propertyUnless
    split
    · exact fun c d h => ⟨rfl, h.beside⟩
    · exact .bind (.wordOf _ isWordChar_of_mem_key) dialect.alongside_propertyOf
  exact .bind .skipBlanks_true fun _ => .bind (.atEnd hbeside) fun _ =>
    .bind (.require hbeside _ _) fun _ =>
      .bind (Alongside.mono (.accept (by decide) (by decide)) fun _ _ h => h.1) hunless

theorem alongside_propertiesFrom (dialect : Dialect) (done : List (Property α)) :
    Alongside Beside Beside (dialect.propertiesFrom done) := by
  intro c d h
  -- Every property takes its key, so what is ahead gets shorter.
  induction hn : c.rest.length using Nat.strongRecOn generalizing done c d with
  | ind n ih =>
    rw [propertiesFrom_eq, propertiesFrom_eq]
    obtain ⟨e, e', c', d', hc, hd, hnear⟩ | ⟨answer, c', d', hc, hd, hbeside⟩ :=
      (dialect.alongside_property (α := α) c d h).cases
    · rw [hc, hd]
      exact hnear
    · rw [hc, hd]
      cases answer with
      | none => exact ⟨rfl, hbeside⟩
      | some property =>
        have hlt : c'.rest.length < n := hn ▸ dialect.advances_property _ _ _ hc rfl
        exact ih _ hlt (property :: done) c' d' hbeside rfl

theorem alongside_endBlock : Alongside Stopped Beside endBlock := by
  intro c d h
  unfold endBlock
  rw [h.beside.isEmpty]
  split
  · exact ⟨rfl, h.beside⟩
  · exact (Alongside.expect_newline c d h).imp fun _ _ => Level.beside

theorem alongside_block (dialect : Dialect) :
    Alongside Beside Beside (dialect.block : Reader (List (Property α))) :=
  .bind .skipBlanks_true fun _ =>
    .bind (Alongside.mono (.expect (by simp) (by simp)) fun _ _ h => h.1.beside) fun _ =>
      .bind (Alongside.mono (dialect.alongside_propertiesFrom []) fun _ _ => Level.beside) fun _ =>
        .bind .skipBlanks_false fun _ => .bind alongside_endBlock fun _ => .pure _

theorem meet_framed (dialect : Dialect) (make : String → List (Property α) → Directive α)
    (h : Beside c d) (hline : '\n' ∉ quotedContent c) :
    Meet Beside (dialect.framed make c) (dialect.framed make d) :=
  (meet_quoted h hline).bind fun _ c' d' _ hlevel =>
    Alongside.bind dialect.alongside_block (fun _ => .pure _) c' d' hlevel.beside

/-! ### Cells -/

variable (α) in
/-- The row of the cell ahead. -/
def cellContent : Cursor → List Char :=
  contentAfter (integer α) fun c => c.rest.take 1

theorem meet_cell (h : Beside c d) (hline : '\n' ∉ cellContent α c) :
    Meet Level (cell α c) (cell α d) := by
  refine (Alongside.integer c d h).bind_content hline fun column c' d' hlevel hrow => ?_
  have hadvance : Meet Level (advance c') (advance d') := by
    cases hc : c'.rest with
    | nil =>
      have hd : d'.rest = [] := by rw [hlevel.rest, hc]; rfl
      simp only [advance, hc, hd]
      exact meet_fail hlevel.beside _
    | cons x rest =>
      have hx : x ≠ '\n' := by
        rintro rfl
        exact hrow (by simp [hc])
      have hd : d'.rest = x :: expandAll rest := by rw [hlevel.rest, hc, expandAll_cons hx]
      have hstep := AtWord.step ⟨hlevel, by simpa [hc] using hx⟩
      simp only [step, hc, hd] at hstep
      simp only [advance, hc, hd]
      exact ⟨rfl, hstep⟩
  exact hadvance.bind fun row c₂ d₂ _ h₂ => ⟨rfl, h₂⟩

variable (α) in
/-- The rows of the compact image ahead. -/
def compactContent : Cursor → List Char :=
  contentAfter (integer α) <| contentAfter (skipBlanks false) <| contentAfter (vec (α := α)) <|
    contentAfter (skipBlanks false) fun c =>
      cellContent α c ++ contentAfter (cell α) (contentAfter (skipBlanks false) (cellContent α)) c

theorem meet_compact (h : Beside c d) (hline : '\n' ∉ compactContent α c) :
    Meet Level ((compact : Reader (Directive α)) c) (compact d) := by
  refine (Alongside.integer c d h).bind_content hline fun number c d h hline => ?_
  refine (Alongside.spaces c d h).bind_content hline fun _ c d h hline => ?_
  refine (Alongside.vec c d h).bind_content hline fun size c d h hline => ?_
  refine (Alongside.spaces c d h).bind_content hline fun _ c d h hline => ?_
  rw [List.mem_append, not_or] at hline
  refine (meet_cell h hline.1).bind_content hline.2 fun image c d h hline => ?_
  refine (Alongside.spaces c d h).bind_content hline fun _ c d h hline => ?_
  exact (meet_cell h hline).bind fun caption c d _ h => ⟨rfl, h⟩

/-! ### Phrases -/

variable (α) in
/-- The content of what follows a keyword: the quoted texts and the rows. -/
def directiveContent (screenSet : Bool) : Keyword → Cursor → List Char
  | .screen => fun _ => []
  | .imageDir | .captionDir => contentAfter equals quotedContent
  | .slide | .customImage => fun c => if screenSet then quotedContent (c.skipBlanks false) else []
  | .image => fun c =>
    if screenSet then
      quotedContent (c.skipBlanks false) ++ compactContent α (c.skipBlanks false)
    else []

variable (α) in
/-- The content of the next phrase. -/
def phraseContent (dialect : Dialect) (screenSet : Bool) (c : Cursor) : List Char :=
  match wordOf Keyword.spelling dialect.keywords (c.skipBlanks true) with
  | .ok (some keyword) c' => directiveContent α screenSet keyword c'
  | _ => []

variable (α) in
/-- The content of the rest of a text. -/
def contents (dialect : Dialect) (screenSet : Bool) (c : Cursor) : List Char :=
  dialect.phraseContent α screenSet c ++
    match _h : dialect.phrase (α := α) screenSet c with
    | .ok (some phrase) c' => contents dialect (screenSet || phrase.setsScreen) c'
    | _ => []
termination_by c.rest.length
decreasing_by exact dialect.advances_phrase _ _ _ _ _h rfl

theorem contents_eq (dialect : Dialect) (screenSet : Bool) (c : Cursor) :
    dialect.contents α screenSet c = dialect.phraseContent α screenSet c ++
      match dialect.phrase (α := α) screenSet c with
      | .ok (some phrase) c' => dialect.contents α (screenSet || phrase.setsScreen) c'
      | _ => [] := by
  rw [contents]
  congr 1
  split <;> simp only [*]

theorem meet_directory (dialect : Dialect) (h : Beside c d)
    (hline : '\n' ∉ contentAfter equals quotedContent c) :
    Meet Beside (dialect.directory c) (dialect.directory d) :=
  (meet_assigned (fun _ _ => meet_quoted) h hline).bind fun path c d _ h =>
    Alongside.bind (dialect.alongside_endAssignment false) (fun _ => .pure path) c d h

theorem alongside_screen (dialect : Dialect) (screenSet : Bool) :
    Alongside Beside Beside (dialect.screen screenSet : Reader (Directive α)) :=
  .bind (.require (fun _ _ h => h) _ _) fun _ => .bind (.assigned .vec) fun _ =>
    .bind (.require (fun _ _ => Stopped.beside) _ _) fun _ =>
      .bind (dialect.alongside_endAssignment false) fun _ => .pure _

/-- Where the screen is not set, no content is read. -/
theorem meet_set {β : Type} {r : Reader β} {content : List Char} (screenSet : Bool)
    (h : Beside c d) (hline : '\n' ∉ if screenSet then content else [])
    (hr : '\n' ∉ content → Meet Beside (r c) (r d)) :
    Meet Beside ((require screenSet .screenUnset >>= fun _ => r) c)
      ((require screenSet .screenUnset >>= fun _ => r) d) := by
  cases screenSet with
  | false => exact meet_fail h _
  | true => exact hr hline

theorem meet_directive (dialect : Dialect) (screenSet : Bool) (keyword : Keyword) (h : Level c d)
    (hline : '\n' ∉ directiveContent α screenSet keyword c) :
    Meet Beside (dialect.directive (α := α) screenSet keyword c)
      (dialect.directive screenSet keyword d) := by
  have hspaces : Beside (c.skipBlanks false) (d.skipBlanks false) :=
    h.beside.skipBlanks_false.beside
  cases keyword with
  | screen => exact dialect.alongside_screen screenSet c d h.beside
  | imageDir | captionDir =>
    exact (dialect.meet_directory h.beside hline).bind fun _ _ _ _ h => ⟨rfl, h⟩
  | slide =>
    refine meet_set screenSet h.beside hline fun hline => ?_
    refine (meet_quoted hspaces hline).bind fun name c d _ h => ?_
    exact (Alongside.bind .spaces (fun _ => .bind .number fun _ => .pure _) c d h).imp fun _ _ =>
      Level.beside
  | customImage =>
    refine meet_set screenSet h.beside hline fun hline => ?_
    exact dialect.meet_framed .customImage hspaces hline
  | image =>
    refine meet_set screenSet h.beside hline fun hline => ?_
    rw [List.mem_append, not_or] at hline
    show Meet Beside (dialect.imageFrom _ _) (dialect.imageFrom _ _)
    rw [h.beside.skipBlanks_false.head?, imageFrom]
    split
    · exact dialect.meet_framed .image hspaces hline.1
    · exact (meet_compact hspaces hline.2).imp fun _ _ => Level.beside

/-- The next phrase is the same, or fails on the same line. -/
theorem meet_phrase (dialect : Dialect) (screenSet : Bool) (h : Beside c d)
    (hline : '\n' ∉ dialect.phraseContent α screenSet c) :
    Meet Beside (dialect.phrase (α := α) screenSet c) (dialect.phrase screenSet d) := by
  obtain ⟨hlevel, hhead⟩ := h.skipBlanks_true
  have hnil : (d.skipBlanks true).rest = [] ↔ (c.skipBlanks true).rest = [] := by
    rw [hlevel.rest, expandAll_eq_nil]
  rw [phrase_eq, phrase_eq]
  by_cases hend : (c.skipBlanks true).rest = []
  · rw [if_pos hend, if_pos (hnil.mpr hend)]
    exact ⟨rfl, hlevel.beside⟩
  rw [if_neg hend, if_neg (mt hnil.mp hend)]
  rw [phraseContent] at hline
  obtain ⟨e, e', c', d', hc, hd, hnear⟩ | ⟨keyword, c', d', hc, hd, hlevel'⟩ :=
    (Alongside.wordOf dialect.keywords isWordChar_of_mem_keyword _ _ hlevel).cases
  · rw [bind_apply, bind_apply, hc, hd]
    exact hnear
  rw [bind_apply, bind_apply, hc, hd]
  rw [hc] at hline
  cases keyword with
  | some keyword =>
    exact (dialect.meet_directive screenSet keyword hlevel' hline).bind fun _ _ _ _ h => ⟨rfl, h⟩
  | none =>
    -- A character that is skipped stands behind blanks, and so is no line end.
    rw [(wordOf_eq_none hc).1, (wordOf_eq_none hd).1]
    obtain ⟨x, rest, hrest⟩ := List.exists_cons_of_ne_nil hend
    have hx : x ≠ '\n' := by simpa [hrest] using hhead
    have hrest' : (d.skipBlanks true).rest = x :: expandAll rest := by
      rw [hlevel.rest, hrest, expandAll_cons hx]
    simp only [phraseOf, bind_apply, skipped_apply hrest, skipped_apply hrest', hlevel.line,
      hlevel.column]
    exact ⟨rfl, (AtWord.step ⟨hlevel, hhead⟩).beside⟩

end Dialect

namespace Reading

variable {α : Type} [Scalar α] {c d : Cursor}

/-- From cursors side by side the same draft is reached, and the reading fails on the same line. -/
theorem conclude_of_beside (dialect : Dialect) (draft : Draft α) (h : Beside c d)
    (hline : '\n' ∉ dialect.contents α draft.screen.isSome c) :
    (conclude dialect draft d).1 = (conclude dialect draft c).1 ∧
      Option.Rel Failure.Near (conclude dialect draft c).2 (conclude dialect draft d).2 := by
  induction draft, c using induction (α := α) dialect generalizing d with
  | step draft c ih =>
    rw [Dialect.contents_eq, List.mem_append, not_or] at hline
    rw [conclude_eq dialect draft c, conclude_eq dialect draft d]
    obtain ⟨e, e', c', d', hc, hd, hnear⟩ | ⟨phrase, c', d', hc, hd, hbeside⟩ :=
      (dialect.meet_phrase draft.screen.isSome h hline.1).cases
    · rw [hc, hd]
      exact ⟨rfl, .some hnear⟩
    · rw [hc, hd]
      cases phrase with
      | none => exact ⟨rfl, .none⟩
      | some phrase =>
        have hrest := hline.2
        simp only [hc, ← Draft.isSome_screen_take] at hrest
        exact ih phrase c' hc hbeside hrest

/-- A text and the same text with line ends of two characters. Unless a line end is part of a quoted
text or stands for a row, both describe the same draft, or the two readings fail with the same words
on the same line, in the same column or the next one. -/
theorem parse_expand (dialect : Dialect) {text : String} (hplain : '\r' ∉ text.toList)
    (hline : '\n' ∉ dialect.contents α false (.ofText text)) :
    (match parse dialect text, parse dialect (expand text) with
      | .ok draft, .ok draft' => (draft' : Draft α) = draft
      | .error e, .error e' => e.Near e'
      | _, _ => False) ∧
    (ofText dialect (expand text)).draft = (ofText dialect text : Reading α).draft := by
  have hlevel : Level (.ofText text) (.ofText (expand text)) :=
    ⟨by simp [Cursor.ofText, expand], hplain, rfl, rfl⟩
  have hbeside := conclude_of_beside (α := α) dialect .initial hlevel.beside hline
  refine ⟨?_, hbeside.1⟩
  rw [parse_eq_conclude, parse_eq_conclude]
  rcases hleft : conclude (α := α) dialect .initial (.ofText text) with ⟨draft, failure⟩
  rcases hright : conclude (α := α) dialect .initial (.ofText (expand text)) with
    ⟨draft', failure'⟩
  rw [hleft, hright] at hbeside
  obtain ⟨rfl, hfailure⟩ := hbeside
  cases hfailure with
  | none => rfl
  | some hnear => exact hnear

/-- A pair of numbers that ends too early. Only a reading with line ends of two characters passes a
carriage return there. -/
theorem parse_expand_pair :
    let dialect : Dialect := { strictNewlines := true }
    let text := "screen = 4, 2\n\nimage \"a.jpg\" \x7b\n  size = 1, \n\x7d"
    '\r' ∉ text.toList ∧ '\n' ∉ dialect.contents Rat false (.ofText text) ∧
      (parse dialect text : Except Failure (Draft Rat)) = .error (.grammar .noNumber 4 13) ∧
      ∃ column, (parse dialect (expand text) : Except Failure (Draft Rat)) =
        .error (.grammar .noNumber 4 column) ∧ (column = 13 ∨ column = 14) := by
  intro dialect text
  have hplain : '\r' ∉ text.toList := by decide +kernel
  have hline : '\n' ∉ dialect.contents Rat false (.ofText text) := by decide +kernel
  have hfailure : (ofText dialect text : Reading Rat).failure =
      some (.grammar .noNumber 4 13) := by
    decide +kernel
  have hparse : (parse dialect text : Except Failure (Draft Rat)) =
      .error (.grammar .noNumber 4 13) := by
    simp only [parse, hfailure]
  refine ⟨hplain, hline, hparse, ?_⟩
  have h := (parse_expand (α := Rat) dialect hplain hline).1
  rw [hparse] at h
  cases hexpand : (parse dialect (expand text) : Except Failure (Draft Rat)) with
  | ok draft => rw [hexpand] at h; exact h.elim
  | error e =>
    rw [hexpand] at h
    cases e with
    | conversion kind => exact h.elim
    | grammar fault line column =>
      obtain ⟨rfl, rfl, hcolumn⟩ := h
      exact ⟨column, rfl, hcolumn⟩

/-- With line ends of two characters it is one column further on. -/
example : (ofText { strictNewlines := true }
    (expand "screen = 4, 2\n\nimage \"a.jpg\" \x7b\n  size = 1, \n\x7d") : Reading Rat).failure =
      some (.grammar .noNumber 4 14) := by
  decide +kernel

end Reading

end Slideshow
