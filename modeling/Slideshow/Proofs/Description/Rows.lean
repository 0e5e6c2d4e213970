import Mathlib.Control.Monad.Basic
import Slideshow.Number.Binary64
import Slideshow.Proofs.Description.Acceptance
import Slideshow.Proofs.Description.Atomicity

/-!
# Rows of numbered images

In a numbered image a row stands directly behind each of the two columns. That it is a letter is
taken for granted: whatever character the column ends at is the row, be it a letter, a quotation
mark, a space or the end of the line. Only where the text ends there is no row, and the image is
refused.

## Main definitions

* `Grammar.Compact.toImageColumn`, `Grammar.Compact.toCaptionColumn`: a numbered image up to one of
  its columns.
* `Grammar.ImageAhead`: the keyword of an image lies ahead, with a text behind it.

## Main statements

* `Grammar.continues_toImageColumn`, `Grammar.continues_toCaptionColumn`: behind a column the next
  character is asked for.
* `Grammar.phrase_eq_compact_iff`: which numbered images are read.
* `Interpreter.rows_of_passes`: what becomes of rows when a text is interpreted.
-/

namespace Slideshow

open Cursor Reader Written Relation

namespace Grammar

variable {α β : Type} [Scalar α] {dialect : Dialect} {rest : List Char} {c : Cursor}

/-! ### Up to a column -/

namespace Compact

/-- Both rows are letters. -/
def Lettered (i : Compact α) : Prop :=
  i.image.row.isAlpha = true ∧ i.caption.row.isAlpha = true

/-- A numbered image up to the column of its place. -/
def toImageColumn (i : Compact α) : List Char :=
  i.toSize ++ i.image.column.text

/-- A numbered image up to the column of its caption. -/
def toCaptionColumn (i : Compact α) : List Char :=
  i.toSize ++ (i.image.text ++ (spaces i.captionGap ++ i.caption.column.text))

theorem text_eq (i : Compact α) : i.text = i.toCaptionColumn ++ [i.caption.row] := by
  simp [text, toCaptionColumn, toSize, Spot.text]

end Compact

/-- Reads a row and goes on with its cell. -/
def fromRow (column : Int) (f : Cell → Reader β) : Reader β := do
  let row ← advance
  f ⟨column - 1, (row.toNat : Int) - 97⟩

theorem forward_captioned (number : Int) (size : Vec α) (image : Cell) :
    Forward (captioned number size image) :=
  .bind (.skipBlanks _) fun _ => .bind Dialect.forward_cell fun _ => .pure _

theorem fromRow_nil (column : Int) (f : Cell → Reader β) (hc : c.rest = []) :
    fromRow column f c = .error (.grammar .endOfText c.line c.column) c := by
  simp only [fromRow, bind_apply, advance, hc]
  rfl

/-- Every character is a row. -/
theorem fromRow_cons (column : Int) (f : Cell → Reader β) {x : Char} (hc : c.rest = x :: rest) :
    fromRow column f c = f ⟨column - 1, (x.toNat : Int) - 97⟩ c.step := by
  have hadvance := Takes.advance x c hc
  simp only [fromRow, bind_apply, hadvance]
  rfl

theorem fromRow_bind {γ : Type} (column : Int) (f : Cell → Reader β) (g : β → Reader γ) :
    fromRow column f >>= g = fromRow column fun cell => f cell >>= g := by
  simp only [fromRow, bind_assoc]

theorem continues_cell (column : Counted α) (hends : column.Ends rest) (f : Cell → Reader β) :
    Continues (Dialect.cell α >>= f) column.text (fromRow column.integer f) rest := by
  have hcell : Dialect.cell α >>= f = integer α >>= fun n => fromRow n f := by
    simp only [Dialect.cell, fromRow, bind_assoc, pure_bind]
  rw [hcell]
  exact (takes_integer column hends).continues _

/-- Behind the column of the image its row is asked for. -/
theorem continues_toImageColumn (i : Compact α) (hends : i.image.column.Ends rest) :
    Continues (dialect.directive (α := α) true .image) i.toImageColumn
      (fromRow i.image.column.integer (captioned i.number.integer i.size.value)) rest :=
  ((Takes.require rfl).continues _).nil_trans
    ((continues_toSize i rest).trans (continues_cell i.image.column hends _))

/-- Behind the column of the caption its row is asked for, and nothing more. -/
theorem continues_toCaptionColumn (i : Compact α) (hends : i.caption.column.Ends rest) :
    Continues (dialect.directive true .image) i.toCaptionColumn
      (fromRow i.caption.column.integer fun caption =>
        pure (Directive.compact (α := α) i.number.integer i.size.value i.image.meaning caption))
      rest := by
  let r : Reader (Directive α) := captioned i.number.integer i.size.value i.image.meaning
  have hcaption : Continues r (spaces i.captionGap ++ i.caption.column.text)
      (fromRow i.caption.column.integer fun caption =>
        pure (.compact i.number.integer i.size.value i.image.meaning caption)) rest :=
    ((takes_spaces i.captionGap (blankAhead_numeral false i.caption.column.toNumeral)).continues
      _).trans (continues_cell i.caption.column hends _)
  have htoSize : Continues
      (Reader.skipBlanks false >>= fun _ => peek >>= dialect.imageFrom (α := α)) i.toSize
      (Dialect.cell α >>= captioned i.number.integer i.size.value)
      (i.image.text ++ (spaces i.captionGap ++ i.caption.column.text) ++ rest) := by
    simpa [Spot.text] using continues_toSize i
      ([i.image.row] ++ (spaces i.captionGap ++ i.caption.column.text) ++ rest)
  exact ((Takes.require rfl).continues _).nil_trans
    (htoSize.trans (((takes_spot i.image).continues (captioned _ _)).trans hcaption))

/-! ### Images that lie ahead -/

/-- Blanks, the keyword of an image and then `text` lie ahead, which does not continue the
keyword. -/
def ImageAhead (text : List Char) (c : Cursor) : Prop :=
  ∃ b : Blanks, c.rest = b.chars ++ (Keyword.image.spelling.toList ++ text) ∧
    Avoids isWordChar text

/-- The phrase goes on behind the part of the image that has been read. -/
theorem ImageAhead.phrase_eq {text : List Char} {r : Reader (Directive α)}
    (hkeywords : ∀ keyword, keyword ∈ dialect.keywords) (h : ImageAhead (text ++ rest) c)
    (hr : Continues (dialect.directive true .image) text r rest) :
    let d := c.forward (c.rest.length - rest.length)
    d.rest = rest ∧
      dialect.phrase true c = (r >>= fun d => pure (some (.directive d))) d := by
  obtain ⟨b, hrest, hword⟩ := h
  have hphrase := (dialect.continues_phrase true (hkeywords .image) hword).trans (hr.bind _)
  obtain ⟨hskip, hbehind⟩ := apply_blanks (dialect.skips_phrase (α := α) true) b _ hrest
  have hlength : c.rest.length - rest.length =
      b.chars.length + (Keyword.image.spelling.toList ++ text).length := by
    simp only [hrest, List.length_append]
    omega
  refine ⟨?_, ?_⟩
  · simp [hrest, ← List.append_assoc]
  · rw [hskip, hphrase _ (by simpa using hbehind), hlength, forward_add]

/-- Where the text ends behind a column, the image is refused. -/
theorem ImageAhead.phrase_of_nil {text : List Char} {column : Int} {f : Cell → Reader (Directive α)}
    (hkeywords : ∀ keyword, keyword ∈ dialect.keywords) (h : ImageAhead text c)
    (hr : Continues (dialect.directive true .image) text (fromRow column f) []) :
    let d := c.forward c.rest.length
    dialect.phrase (α := α) true c = .error (.grammar .endOfText d.line d.column) d := by
  have happend : ImageAhead (text ++ []) c := by rwa [List.append_nil]
  obtain ⟨hrest, hphrase⟩ := happend.phrase_eq hkeywords hr
  rw [hphrase, bind_apply, fromRow_nil column f hrest]
  rfl

/-- Where a row is read, what comes after it is all that can be found fault with. -/
theorem ImageAhead.length_le {text : List Char} {x : Char} {column : Int}
    {f : Cell → Reader (Directive α)} (hkeywords : ∀ keyword, keyword ∈ dialect.keywords)
    (h : ImageAhead (text ++ x :: rest) c)
    (hr : Continues (dialect.directive true .image) text (fromRow column f) (x :: rest))
    (hf : ∀ cell, Forward (f cell)) :
    (after (dialect.phrase (α := α) true c)).rest.length ≤ rest.length := by
  obtain ⟨hrest, hphrase⟩ := h.phrase_eq hkeywords hr
  have hforward : ∀ cell, Forward (f cell >>= fun d => pure (some (Phrase.directive d))) :=
    fun cell => (hf cell).bind fun _ => .pure _
  rw [hphrase, fromRow_bind, fromRow_cons _ _ hrest]
  refine Nat.le_trans ((hforward _).length_le _) ?_
  rw [step_rest, hrest]
  exact Nat.le_refl _

/-- Whatever its rows are, a numbered image is read. -/
theorem ImageAhead.phrase_of_text (hkeywords : ∀ keyword, keyword ∈ dialect.keywords)
    {i : Compact α} (h : ImageAhead (i.text ++ rest) c) :
    dialect.phrase true c =
      .ok (some (.directive i.meaning)) (c.forward (c.rest.length - rest.length)) := by
  rw [i.text_eq, List.append_assoc] at h
  obtain ⟨hrest, hphrase⟩ := h.phrase_eq hkeywords (continues_toCaptionColumn i
    (avoids_append i.caption.column_ends (List.cons_ne_nil _ _) rest))
  have hlt : rest.length < c.rest.length := by
    have := congrArg List.length hrest
    simp only [forward_rest, List.length_drop, List.length_append, List.length_singleton] at this
    omega
  have hstep : c.rest.length - rest.length =
      c.rest.length - ([i.caption.row] ++ rest).length + 1 := by
    rw [List.length_append, List.length_singleton]
    omega
  rw [hphrase, bind_apply, fromRow_cons _ _ hrest, hstep, forward_add]
  rfl

/-- Which numbered images are read. What their rows are does not matter. -/
theorem phrase_eq_compact_iff (hkeywords : ∀ keyword, keyword ∈ dialect.keywords) {number : Int}
    {size : Vec α} {image caption : Cell} {c' : Cursor} :
    dialect.phrase true c = .ok (some (.directive (.compact number size image caption))) c' ↔
      ∃ (i : Compact α) (rest : List Char), ImageAhead (i.text ++ rest) c ∧
        i.meaning = .compact number size image caption ∧
        c' = c.forward (c.rest.length - rest.length) := by
  constructor
  · intro h
    obtain ⟨b, hblanks, ⟨_, _, _, hphrase, -⟩ |
      ⟨keyword, d, c₁, hphrase, hkeyword, hword, hdirective⟩⟩ := phrase_eq_some h
    · cases hphrase
    cases hphrase
    obtain ⟨clause, rfl, e, hbody, -, -, hmeaning, -⟩ := exists_clause hdirective
    cases clause with
    | compact i =>
      have hahead : ImageAhead (i.text ++ e.rest) c := by
        refine ⟨b, ?_, hbody.rest ▸ hword⟩
        rw [hblanks.rest, (hkeyword.append hbody).rest, List.append_assoc]
        rfl
      have hphrase := hahead.phrase_of_text hkeywords
      rw [h] at hphrase
      cases hphrase
      exact ⟨i, e.rest, hahead, hmeaning, rfl⟩
    | screen | imageDir | captionDir | slide | image | customImage => cases hmeaning
  · rintro ⟨i, rest, hahead, hmeaning, rfl⟩
    rw [hahead.phrase_of_text hkeywords, hmeaning]

end Grammar

namespace Interpreter

open Grammar

variable {α : Type} [Scalar α] {dialect : Dialect}

/-- A run that fails does so behind its next phrase, or where this one fails. -/
theorem length_le_of_run_error {draft : Draft α} {c : Cursor} (hscaled : draft.Scaled)
    {e : Breakdown} {p' : Progress α} (h : run dialect ⟨c, draft⟩ = .error e p') :
    p'.cursor.rest.length ≤
      (after (dialect.phrase (α := α) draft.screen.isSome c)).rest.length := by
  induction draft, c using Reading.induction (α := α) dialect with
  | step draft c ih =>
    rw [run_eq, pass_apply dialect c hscaled] at h
    cases hphrase : dialect.phrase (α := α) draft.screen.isSome c with
    | error f c' =>
      rw [hphrase] at h
      cases h
      exact Nat.le_refl _
    | ok phrase c' =>
      rw [hphrase] at h
      cases phrase with
      | none => cases h
      | some phrase =>
        have hapt := dialect.yields_phrase _ _ _ _ hphrase phrase rfl
        exact Nat.le_trans (ih phrase c' hphrase (hscaled.take hapt) h)
          ((dialect.forward_phrase _).length_le c')

/-- Take any place that the interpretation of a text comes by, with a screen to show something on.
A numbered image is read there just if one is written there, and then the character behind each of
its columns is its row, whatever character that is; its two items are added, and reading goes on
behind it. Every character that is neither a digit nor a point can be a row. The first row is not
found fault with either if the image is refused for what comes after it. Only where the text ends
behind a column is there no row; the image is refused at that place, and nothing of it is added. -/
theorem rows_of_passes (strictNewlines : Bool) (text : String) {p : Progress α} {screen : Vec α}
    (hreach : ReflTransGen (Passes { strictNewlines }) ⟨.ofText text, .initial⟩ p)
    (hscreen : p.draft.screen = some screen) :
    let dialect : Dialect := { strictNewlines }
    (∀ number size image caption c,
      dialect.phrase true p.cursor =
          .ok (some (.directive (.compact number size image caption))) c ↔
        ∃ (i : Grammar.Compact α) (rest : List Char), ImageAhead (i.text ++ rest) p.cursor ∧
          i.meaning = .compact number size image caption ∧
          c = p.cursor.forward (p.cursor.rest.length - rest.length)) ∧
    (∀ (i : Grammar.Compact α) (rest : List Char), ImageAhead (i.text ++ rest) p.cursor →
      ∃ picture caption : Item α,
        Passes dialect p
          ⟨p.cursor.forward (p.cursor.rest.length - rest.length), p.draft.obey i.meaning⟩ ∧
        (p.draft.obey i.meaning).timeline.declared =
          p.draft.timeline.declared ++ [picture, caption] ∧
        picture.position = (Cell.toVec ⟨i.image.column.integer - 1,
          (i.image.row.toNat : Int) - 97⟩).fractionOf screen ∧
        caption.position = (Cell.toVec ⟨i.caption.column.integer - 1,
          (i.caption.row.toNat : Int) - 97⟩).fractionOf screen) ∧
    (∀ (column : Counted α) (x : Char), continuesNumber x = false →
      ∃ s : Grammar.Spot α, s.column = column ∧ s.row = x) ∧
    (∀ (i : Grammar.Compact α) (x : Char) (rest : List Char) (e : Breakdown) (p' : Progress α),
      i.image.column.Ends (x :: rest) → ImageAhead (i.toImageColumn ++ x :: rest) p.cursor →
      interpret dialect .initial text = .error e p' → p'.cursor.rest.length ≤ rest.length) ∧
    ∀ i : Grammar.Compact α, ∀ stump ∈ [i.toImageColumn, i.toCaptionColumn],
      ImageAhead stump p.cursor →
      let c := p.cursor.forward p.cursor.rest.length
      interpret dialect .initial text =
        .error (.failure (.grammar .endOfText c.line c.column)) ⟨c, p.draft⟩ := by
  intro dialect
  have hkeywords : ∀ keyword, keyword ∈ dialect.keywords := Keyword.mem_all
  have hscaled : p.draft.Scaled := scaled_of_passes hreach Draft.scaled_initial
  have hset : p.draft.screen.isSome = true := by rw [hscreen]; rfl
  have hrun : interpret dialect .initial text = run dialect p := run_of_passes hreach
  have hpass := pass_apply dialect p.cursor hscaled
  rw [hset] at hpass
  refine ⟨fun number size image caption c => phrase_eq_compact_iff hkeywords,
    fun i rest hahead => ?added, fun column x hx => ?ended, ?passed, ?refused⟩
  case added =>
    rw [hahead.phrase_of_text hkeywords] at hpass
    have hitems : (p.draft.obey i.meaning).timeline.declared = p.draft.timeline.declared ++
        (p.draft.rawItems i.meaning).map (·.onScreen screen) := by
      rw [Draft.timeline_obey, Timeline.declared_addAll, Draft.items, hscreen]
    exact ⟨_, _, hpass, hitems, rfl, rfl⟩
  case ended => exact ⟨⟨column, x, ends_of_avoids _ (avoids_cons hx)⟩, rfl, rfl⟩
  case passed =>
    intro i x rest e p' hx hahead h
    have hrow := hahead.length_le hkeywords (continues_toImageColumn i hx)
      fun cell => forward_captioned _ _ cell
    rw [hrun] at h
    refine Nat.le_trans (length_le_of_run_error hscaled h) ?_
    rwa [hset]
  case refused =>
    have hrefused : ∀ c f, dialect.phrase (α := α) true p.cursor = .error f c →
        interpret dialect .initial text = .error (.failure f) ⟨c, p.draft⟩ := by
      intro c f hphrase
      rw [hrun, run_eq, hpass, hphrase]
    intro i stump hstump hahead
    simp only [List.mem_cons, List.not_mem_nil, or_false] at hstump
    obtain rfl | rfl := hstump
    · exact hrefused _ _ (hahead.phrase_of_nil hkeywords
        (continues_toImageColumn i avoids_nil))
    · exact hrefused _ _ (hahead.phrase_of_nil hkeywords
        (continues_toCaptionColumn i avoids_nil))

/-! ### Ends of lines as rows -/

/-- The caption of an image has the end of the line for its row. -/
theorem exists_lineEndImage : ∃ i : Grammar.Compact Float,
    i.text = " 7 2, 2 1a 3\n".toList ∧ i.toCaptionColumn = " 7 2, 2 1a 3".toList ∧
      i.caption.column.integer = 3 ∧ i.caption.row = '\n' := by
  let digit (x : Char) (h : isDigit x = true) : Numeral :=
    ⟨false, [x], none, by simp, by simpa using h, by simp⟩
  let two := digit '2' rfl
  refine ⟨{
    numberGap := 1
    number := ⟨digit '7' rfl, 7, by decide +kernel⟩
    sizeGap := 1
    size := ⟨two, 0, 1, two⟩
    imageGap := 1
    image := ⟨⟨digit '1' rfl, 1, by decide +kernel⟩, 'a', avoids_cons rfl⟩
    captionGap := 1
    caption := ⟨⟨digit '3' rfl, 3, by decide +kernel⟩, '\n', avoids_cons rfl⟩
    number_ends := avoids_cons rfl
    size_ends := avoids_cons rfl }, by decide +kernel, by decide +kernel, rfl, rfl⟩

/-- What a screen of four by two units amounts to. -/
def fourByTwo : Draft Float :=
  { Draft.initial with screen := some ⟨4, 2⟩ }

/-- Behind the screen the image lies ahead, with the end of its line or without it. -/
theorem passes_fourByTwo :
    ∀ more ∈ ["", "\n"],
      Passes { strictNewlines := false }
        ⟨.ofText ("screen = 4, 2\nimage 7 2, 2 1a 3" ++ more), .initial⟩
        ⟨⟨("\nimage 7 2, 2 1a 3" ++ more).toList, 13, 1, 14⟩, fourByTwo⟩ := by
  unfold Passes
  decide +kernel

/-- With the end of its line the image is read, and its caption lies far below the screen. Without
it the image is refused. -/
theorem rows_of_passes_line_end :
    let dialect : Dialect := { strictNewlines := false }
    let text := "screen = 4, 2\nimage 7 2, 2 1a 3"
    (∃ (p : Progress Float) (picture caption : Item Float),
      ReflTransGen (Passes dialect) ⟨.ofText (text ++ "\n"), .initial⟩ p ∧
      p.cursor.rest = [] ∧ p.draft.timeline.declared = [picture, caption] ∧
      caption.position = ⟨1 / 2, -87 / 2⟩) ∧
    ∃ c, interpret dialect .initial (text ++ "") =
      .error (.failure (.grammar .endOfText 2 18)) ⟨c, fourByTwo⟩ := by
  intro dialect text
  obtain ⟨i, htext, hcolumn, hinteger, hrow⟩ := exists_lineEndImage
  have hread := passes_fourByTwo "\n" (by simp)
  have hcut := passes_fourByTwo "" (by simp)
  obtain ⟨-, hadded, -⟩ := rows_of_passes false _ (.single hread) rfl
  obtain ⟨-, -, -, -, hrefused⟩ := rows_of_passes false _ (.single hcut) rfl
  constructor
  · obtain ⟨picture, caption, hpass, hitems, -, hcaption⟩ := hadded i []
      ⟨⟨['\n'], rfl⟩, by rw [htext]; decide +kernel, by rw [htext]; exact avoids_cons rfl⟩
    refine ⟨_, picture, caption, .tail (.single hread) hpass, ?_, hitems, ?_⟩
    · rw [forward_rest]
      exact List.drop_length
    · rw [hcaption, hinteger, hrow]
      decide +kernel
  · exact ⟨_, hrefused i i.toCaptionColumn (by simp)
      ⟨⟨['\n'], rfl⟩, by rw [hcolumn]; decide +kernel, by rw [hcolumn]; exact avoids_cons rfl⟩⟩

/-- So not all descriptions that are read have letters for rows. -/
theorem not_lettered_of_parse :
    ¬ ∀ (strictNewlines : Bool) (text : String) (draft : Draft Float),
      Reading.parse { strictNewlines } text = .ok draft → ∀ p : Progress Float,
        ReflTransGen (Passes { strictNewlines }) ⟨.ofText text, .initial⟩ p →
        p.draft.screen.isSome = true → ∀ (i : Grammar.Compact Float) (rest : List Char),
          ImageAhead (i.text ++ rest) p.cursor → i.Lettered := by
  intro h
  obtain ⟨i, htext, -, -, hrow⟩ := exists_lineEndImage
  have hok : (Reading.parse (α := Float) { strictNewlines := false }
      ("screen = 4, 2\nimage 7 2, 2 1a 3" ++ "\n")).isOk = true := by
    decide +kernel
  have hread := passes_fourByTwo "\n" (by simp)
  cases hparse : Reading.parse (α := Float) { strictNewlines := false }
      ("screen = 4, 2\nimage 7 2, 2 1a 3" ++ "\n") with
  | error e => rw [hparse] at hok; cases hok
  | ok draft =>
    obtain ⟨-, hcaption⟩ := h _ _ _ hparse _ (.single hread) rfl i []
      ⟨⟨['\n'], rfl⟩, by rw [htext]; decide +kernel, by rw [htext]; exact avoids_cons rfl⟩
    rw [hrow] at hcaption
    revert hcaption
    decide

end Interpreter

end Slideshow
