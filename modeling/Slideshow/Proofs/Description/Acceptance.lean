import Slideshow.Proofs.Description.Derivation

/-!
# What is accepted

Whatever is written according to the grammar is read, and as what it means. With the converse this
says which texts are accepted, and what they are taken to describe.

## Main statements

* `Grammar.takes_entries`, `Grammar.covers_block`: blocks are read.
* `Grammar.continues_toSize`: a numbered image is read up to its places.
* `Grammar.covers_clause`: so are clauses.
* `Reading.conclude_segments`: and so are segments that fit.
* `Reading.parse_eq_ok_iff`: nothing else is.
-/

namespace Slideshow

namespace Grammar

open Cursor Reader Written

variable {α β : Type} [Scalar α] {rest : List Char} {c : Cursor} {dialect : Dialect}

/-! ### Blanks and ends of lines -/

theorem sameAhead_blanks (b : Blanks) (hc : c.rest = b.chars ++ rest) :
    (c.forward b.chars.length).SameAhead c := by
  obtain ⟨chars, hchars⟩ := b
  replace hc : c.rest = chars ++ rest := hc
  show (c.forward chars.length).SameAhead c
  fun_induction isBlank chars generalizing c with
  | case1 => exact .refl c
  | case2 chars ih =>
    exact (ih hchars (c := c.step) (by simp [hc])).trans (.step (by rw [hc]; rfl))
  | case3 chars ih =>
    exact (ih hchars (c := c.step) (by simp [hc])).trans (.step (by rw [hc]; rfl))
  | case4 chars ih =>
    have hstep : c.step.rest = '\n' :: (chars ++ rest) := by simp [hc]
    refine (ih hchars (c := c.step.step) (by simp [hc])).trans ?_
    exact .trans (.step (by rw [hstep]; rfl)) (.step (by rw [hc]; rfl))
  | case5 => cases hchars

theorem takes_blanks (b : Blanks) (h : blankAhead true rest = false) :
    Takes (Reader.skipBlanks true) b.chars () rest := by
  intro c hc
  have hrest : (c.forward b.chars.length).rest = rest := by simp [hc]
  show EStateM.Result.ok () (c.skipBlanks true) = _
  rw [← sameAhead_blanks b hc, skipBlanks_of_not_blankAhead (by rw [hrest]; exact h)]

/-- A reader that skips blanks begins behind them. -/
theorem apply_blanks {r : Reader β} (hskips : Skips r) (b : Blanks) (text : List Char)
    (hc : c.rest = b.chars ++ text) :
    r c = r (c.forward b.chars.length) ∧ (c.forward b.chars.length).rest = text :=
  ⟨hskips _ _ (sameAhead_blanks b hc).symm, by simp [hc]⟩

theorem skipBlanks_spaces {n : Nat} (hc : c.rest = spaces n ++ rest) :
    (c.forward n).skipBlanks false = c.skipBlanks false := by
  induction n generalizing c with
  | zero => rfl
  | succ n ih =>
    have hblank : blankAhead false c.rest = true := by rw [hc]; rfl
    rw [skipBlanks_of_blankAhead hblank]
    exact ih (by simp [hc, spaces, List.replicate_succ])

/-- An assignment ends where the line closes. -/
theorem endAssignment_of_lineCloses (dialect : Dialect) (inBlock : Bool)
    (h : dialect.strictNewlines = true → lineCloses inBlock c.rest = true) :
    ∃ d, dialect.endAssignment inBlock (c.skipBlanks false) = .ok () d ∧ d.SameAhead c := by
  cases hstrict : dialect.strictNewlines with
  | false => exact ⟨_, by simp [Dialect.endAssignment, hstrict], .skipBlanks false c⟩
  | true =>
    have hclosed := h hstrict
    rw [← closed_skipBlanks] at hclosed
    obtain ⟨d, hd, hahead⟩ := dialect.endAssignment_strict_of_closed hclosed
    rw [strict_eq hstrict] at hd
    exact ⟨d, hd, hahead.trans (.skipBlanks false c)⟩

/-! ### Assignments -/

theorem takes_equals (before after : Nat) (h : blankAhead false rest = false) :
    Takes equals (spaces before ++ '=' :: spaces after) () rest :=
  (takes_spaces before rfl).bind (.cons_bind (.expect (by decide)) (takes_spaces after h))

/-- An assignment is read with all spaces behind it. -/
theorem assigned_apply {Value : Type} {r : Reader β} {text : Value → List Char} {b : β}
    (a : Assignment Value) (hblank : ∀ more, blankAhead false (text a.value ++ more) = false)
    (hr : Takes r (text a.value) b (spaces a.behind ++ rest)) (hc : c.rest = a.text text ++ rest) :
    assigned r c = .ok b ((c.forward (a.text text).length).skipBlanks false) := by
  let lead := spaces a.before ++ '=' :: spaces a.after ++ text a.value
  have htext : a.text text = lead ++ spaces a.behind := by
    simp [Assignment.text, lead]
  have htakes : Takes (equals >>= fun _ => r) lead b (spaces a.behind ++ rest) :=
    (takes_equals a.before a.after (hblank _)).bind hr
  rw [htext, List.append_assoc] at hc
  have hassigned : assigned r c = .ok b ((c.forward lead.length).skipBlanks false) := by
    rw [assigned_eq, ← bind_assoc, bind_apply, htakes c hc]
    rfl
  have hbehind : (c.forward lead.length).rest = spaces a.behind ++ rest := by
    rw [forward_rest, hc, List.drop_left]
  have hlength : (a.text text).length = lead.length + a.behind := by
    simp [htext, spaces]
  rw [hassigned, hlength, forward_add, skipBlanks_spaces hbehind]

theorem setting_apply (s : Setting) (hends : s.Ends rest) (hc : c.rest = s.text ++ rest) :
    (Dialect.value s.key : Reader (Property α)) c =
      .ok s.meaning ((c.forward s.text.length).skipBlanks false) := by
  have hvec : ∀ a : Assignment Pair, a.Ends Pair.Ends rest → c.rest = a.text Pair.text ++ rest →
      (assigned vec : Reader (Vec α)) c =
        .ok a.value.value ((c.forward (a.text Pair.text).length).skipBlanks false) :=
    fun a hends => assigned_apply a (blankAhead_pair false a.value) (takes_vec a.value hends)
  have hnumber : ∀ a : Assignment Numeral, a.Ends Numeral.Ends rest →
      c.rest = a.text Numeral.text ++ rest → (assigned number : Reader α) c =
        .ok a.value.value ((c.forward (a.text Numeral.text).length).skipBlanks false) :=
    fun a hends => assigned_apply a (fun _ => blankAhead_numeral false a.value)
      (takes_number a.value hends)
  cases s with
  | position a | size a =>
    simp only [Setting.key, Dialect.value, bind_apply, hvec a hends hc]
    rfl
  | start a | duration a | fadeIn a | fadeOut a =>
    simp only [Setting.key, Dialect.value, bind_apply, hnumber a hends hc]
    rfl

/-! ### Blocks -/

theorem covers_propertyOf (s : Setting) (hends : s.Ends rest)
    (hcloses : dialect.strictNewlines = true → lineCloses true rest = true) :
    Covers (dialect.propertyOf (some s.key) : Reader (Option (Property α))) s.text
      (some s.meaning) rest := by
  intro c hc
  have hrest : (c.forward s.text.length).rest = rest := by simp [hc]
  obtain ⟨d, hd, hahead⟩ := endAssignment_of_lineCloses dialect true
    (c := c.forward s.text.length) (by rwa [hrest])
  refine ⟨d, ?_, hahead⟩
  simp only [Dialect.propertyOf, bind_apply, setting_apply s hends hc, hd]
  rfl

/-- A property is read from its key on. -/
theorem covers_setting (hkeys : ∀ key, key ∈ dialect.keys) (s : Setting) (hends : s.Ends rest)
    (hcloses : dialect.strictNewlines = true → lineCloses true rest = true) :
    Covers (dialect.property : Reader (Option (Property α))) (s.key.spelling.toList ++ s.text)
      (some s.meaning) rest := by
  have hkey : ∀ (key : Key) (more : List Char),
      blankAhead true (key.spelling.toList ++ more) = false ∧
      (key.spelling.toList ++ more).head? ≠ some '\x7d' := by
    intro key more
    cases key <;> simp [Key.spelling, blankAhead]
  obtain ⟨hahead, hbrace⟩ := hkey s.key (s.text ++ rest)
  rw [← List.append_assoc] at hahead hbrace
  refine .nil_bind (.skipBlanks (by simp) hahead) (.nil_bind (.atEnd ?_) ?_)
  · exact List.append_ne_nil_of_left_ne_nil
      (List.append_ne_nil_of_left_ne_nil (Dialect.key_ne_nil _) _) _
  refine .nil_bind (.require rfl) (.nil_bind (.accept_of_ne hbrace) (.bind (b := some s.key) ?_ ?_))
  · exact .wordOf Dialect.isWordChar_of_mem_key Dialect.key_injective (hkeys _)
      (avoids_setting s rest)
  · exact covers_propertyOf s hends hcloses

theorem takes_property_none (dialect : Dialect) :
    Takes (dialect.property : Reader (Option (Property α))) ['\x7d'] none rest := by
  refine .nil_bind (.skipBlanks (by simp) rfl) (.nil_bind (.atEnd (by simp)) ?_)
  exact .nil_bind (.require rfl) (.bind (.accept '\x7d') (.pure none))

/-- The entries of a block are read up to its brace. -/
theorem takes_entries (hkeys : ∀ key, key ∈ dialect.keys) (entries : List Entry) (closing : Blanks)
    (hfit : EntriesFit dialect.strictNewlines entries (closing.chars ++ ['\x7d'] ++ rest))
    (done : List (Property α)) :
    Takes (dialect.propertiesFrom done)
      (entries.flatMap Entry.text ++ (closing.chars ++ ['\x7d']))
      (done.reverse ++ entries.map (·.setting.meaning)) rest := by
  induction entries generalizing done with
  | nil =>
    intro c hc
    obtain ⟨happly, hrest⟩ := apply_blanks (c := c) (dialect.skips_propertiesFrom done) closing
      (['\x7d'] ++ rest) (by simp [hc])
    rw [happly, Dialect.propertiesFrom_eq, takes_property_none dialect _ hrest]
    simp [forward_add]
  | cons e entries ih =>
    obtain ⟨hends, hcloses, hfit⟩ := hfit
    intro c hc
    let behind := entries.flatMap Entry.text ++ (closing.chars ++ ['\x7d'] ++ rest)
    obtain ⟨happly, hrest⟩ := apply_blanks (c := c) (dialect.skips_propertiesFrom done) e.blanks
      (e.setting.key.spelling.toList ++ e.setting.text ++ behind)
      (by simp [hc, Entry.text, behind])
    obtain ⟨d, hd, hahead⟩ := covers_setting (α := α) hkeys e.setting hends hcloses _ hrest
    rw [happly, Dialect.propertiesFrom_eq, hd]
    simp only
    -- Blanks that the property left are skipped with those before the next one.
    rw [dialect.skips_propertiesFrom _ _ _ hahead, ih hfit]
    · simp [forward_add, Entry.text]
    · rw [forward_rest, hrest, List.drop_left]
      simp [behind]

/-- A block is read, and perhaps the blanks behind it on its last line. -/
theorem covers_block (hkeys : ∀ key, key ∈ dialect.keys) (b : Block)
    (hfits : b.Fits dialect.strictNewlines rest) (hcloses : lineCloses false rest = true) :
    Covers (dialect.block : Reader (List (Property α))) b.text b.meaning rest := by
  have htext : b.text =
      b.before.chars ++ (['\x7b'] ++ ((b.entries.flatMap Entry.text ++ b.close) ++ [])) := by
    simp [Block.text]
  rw [htext]
  refine .bind (takes_blanks b.before rfl) (.bind (.expect (by decide))
    (.bind (takes_entries hkeys b.entries b.closing hfits []) ?_))
  intro c hc
  obtain ⟨d, hd, hahead⟩ := endAssignment_of_lineCloses dialect.strict false (c := c)
    (fun _ => by rw [hc]; exact hcloses)
  rw [← endBlock_eq] at hd
  refine ⟨d, ?_, hahead⟩
  have hskip : Reader.skipBlanks false c = .ok () (c.skipBlanks false) := rfl
  simp only [bind_apply, hskip, hd]
  rfl

theorem covers_framed (hkeys : ∀ key, key ∈ dialect.keys) (f : Framed)
    (make : String → List (Property α) → Directive α)
    (hfits : f.block.Fits dialect.strictNewlines rest) (hcloses : lineCloses false rest = true) :
    Covers (dialect.framed make) (f.name.text ++ f.block.text)
      (make f.name.content f.block.meaning) rest :=
  .bind (takes_quoted f.name) ((covers_block hkeys f.block hfits hcloses).map _)

/-! ### Compact images -/

theorem takes_spot (s : Spot α) : Takes (Dialect.cell α) s.text s.meaning rest :=
  .bind (takes_integer s.column s.column_ends) ((Takes.advance s.row).map _)

namespace Compact

/-- A numbered image up to its size, and the spaces behind it. -/
def toSize (i : Compact α) : List Char :=
  spaces i.numberGap ++ (i.number.text ++ (spaces i.sizeGap ++ (i.size.text ++ spaces i.imageGap)))

/-- The number ends before the size, and the size before the column. -/
theorem ends (i : Compact α) (more : List Char) :
    i.number.Ends (spaces i.sizeGap ++ (i.size.text ++ more)) ∧
      i.size.Ends (spaces i.imageGap ++ (i.image.column.text ++ more)) := by
  have hsize : i.size.text ≠ [] := by simp [Pair.text]
  have hcolumn : i.image.column.text ≠ [] := by
    obtain ⟨x, xs, htext, -⟩ := exists_text_eq_cons i.image.column.toNumeral
    rw [htext]
    exact List.cons_ne_nil x xs
  have hends : i.size.Ends (spaces i.imageGap ++ i.image.column.text) := by
    have := i.size_ends
    rw [Spot.text, ← List.append_assoc] at this
    exact avoids_of_append this
  constructor
  · rw [← List.append_assoc]
    exact avoids_append i.number_ends (List.append_ne_nil_of_right_ne_nil _ hsize) more
  · rw [← List.append_assoc]
    exact avoids_append hends (List.append_ne_nil_of_right_ne_nil _ hcolumn) more

end Compact

/-- Reads what follows the place of a numbered image. -/
def captioned (number : Int) (size : Vec α) (image : Cell) : Reader (Directive α) := do
  Reader.skipBlanks false
  let caption ← Dialect.cell α
  return .compact number size image caption

/-- A numbered image is read up to its size, if a column follows. -/
theorem continues_toSize (i : Compact α) (more : List Char) :
    Continues (Reader.skipBlanks false >>= fun _ => peek >>= dialect.imageFrom (α := α)) i.toSize
      (Dialect.cell α >>= captioned i.number.integer i.size.value)
      (i.image.column.text ++ more) := by
  obtain ⟨x, xs, hnumber, hx⟩ := exists_text_eq_cons i.number.toNumeral
  obtain ⟨hnumber_ends, -⟩ := i.ends (spaces i.imageGap ++ (i.image.column.text ++ more))
  obtain ⟨-, hsize_ends⟩ := i.ends more
  have hquote : ∀ more, (i.number.text ++ more).head? ≠ some '"' := by
    intro more
    rw [hnumber]
    rintro heq
    cases heq
    simp [isDigit] at hx
  have hcompact : Continues (Dialect.compact : Reader (Directive α))
      (i.number.text ++ (spaces i.sizeGap ++ (i.size.text ++ spaces i.imageGap)))
      (Dialect.cell α >>= captioned i.number.integer i.size.value)
      (i.image.column.text ++ more) := by
    refine ((takes_integer i.number ?_).continues _).trans
      (((takes_spaces i.sizeGap ?_).continues _).trans
      (((takes_vec i.size ?_).continues _).trans
      ((takes_spaces i.imageGap ?_).continues _)))
    · simpa only [List.append_assoc] using hnumber_ends
    · rw [List.append_assoc]
      exact blankAhead_pair false i.size _
    · exact hsize_ends
    · exact blankAhead_numeral false i.image.column.toNumeral
  refine ((takes_spaces i.numberGap ?_).continues _).trans ?_
  · rw [List.append_assoc]
    exact blankAhead_numeral false i.number.toNumeral
  refine (Takes.peek.continues _).nil_trans ?_
  rw [Dialect.imageFrom, List.append_assoc, if_neg (hquote _)]
  exact hcompact

/-! ### Clauses -/

theorem covers_slide (s : Slide) (hends : s.seconds.Ends (spaces s.behind ++ rest)) :
    Covers (Dialect.slide : Reader (Directive α)) s.text (.slide s.name.content s.seconds.value)
      rest := by
  have htext : s.text = (spaces s.before ++ (s.name.text ++ (spaces s.between ++
      s.seconds.text))) ++ spaces s.behind := by
    simp only [Slide.text, List.append_assoc]
  rw [htext]
  -- The slide ends with its number, and the spaces behind it are left.
  refine Covers.append_blanks (Takes.covers ?_) fun x hx => .inl (List.eq_of_mem_replicate hx)
  refine .bind (takes_spaces s.before rfl) (.bind (takes_quoted s.name) ?_)
  refine .bind (takes_spaces s.between ?_) ((takes_number s.seconds hends).map _)
  exact blankAhead_numeral false s.seconds

theorem covers_path (path : Assignment Quote)
    (hcloses : dialect.strictNewlines = true → lineCloses false rest = true) :
    Covers dialect.directory (path.text Quote.text) path.value.content rest := by
  intro c hc
  have hrest : (c.forward (path.text Quote.text).length).rest = rest := by simp [hc]
  obtain ⟨d, hd, hahead⟩ := endAssignment_of_lineCloses dialect false
    (c := c.forward (path.text Quote.text).length) (by rwa [hrest])
  refine ⟨d, ?_, hahead⟩
  have hassigned := assigned_apply path (fun _ => rfl) (takes_quoted path.value) hc
  simp only [Dialect.directory, bind_apply, hassigned, hd]
  rfl

theorem covers_screen (size : Assignment Pair) (hends : size.Ends Pair.Ends rest)
    (hcloses : dialect.strictNewlines = true → lineCloses false rest = true)
    (hx : Scalar.isZero (size.value.x.value : α) = false)
    (hy : Scalar.isZero (size.value.y.value : α) = false) :
    Covers (dialect.screen false : Reader (Directive α)) (size.text Pair.text)
      (.screen size.value.value) rest := by
  intro c hc
  have hrest : (c.forward (size.text Pair.text).length).rest = rest := by simp [hc]
  obtain ⟨d, hd, hahead⟩ := endAssignment_of_lineCloses dialect false
    (c := c.forward (size.text Pair.text).length) (by rwa [hrest])
  refine ⟨d, ?_, hahead⟩
  have hassigned : assigned vec c = .ok (size.value.value : Vec α) _ :=
    assigned_apply size (blankAhead_pair false size.value) (takes_vec size.value hends) hc
  have hzero : (!(Scalar.isZero (size.value.value : Vec α).x ||
      Scalar.isZero (size.value.value : Vec α).y)) = true := by
    simp [Pair.value, hx, hy]
  have hrequire : ∀ fault c, require true fault c = .ok () c := fun _ _ => rfl
  simp only [Dialect.screen, bind_apply, Bool.not_false, hrequire, hassigned, hzero, hd]
  rfl

/-- An image whose name is quoted has a block, and a number stands before a compact one. -/
theorem covers_image (hkeys : ∀ key, key ∈ dialect.keys) (f : Framed)
    (hfits : f.block.Fits dialect.strictNewlines rest) (hcloses : lineCloses false rest = true) :
    Covers (peek >>= dialect.imageFrom) (f.name.text ++ f.block.text)
      (.image f.name.content f.block.meaning : Directive α) rest := by
  refine .nil_bind .peek ?_
  have hquote : (f.name.text ++ f.block.text ++ rest).head? = some '"' := rfl
  rw [Dialect.imageFrom, if_pos hquote]
  exact covers_framed hkeys f .image hfits hcloses

theorem covers_numbered (i : Compact α) (rest : List Char) :
    Covers (Reader.skipBlanks false >>= fun _ => peek >>= dialect.imageFrom (α := α)) i.text
      i.meaning rest := by
  have hplaces : Takes (Dialect.cell α >>= captioned i.number.integer i.size.value)
      (i.image.text ++ (spaces i.captionGap ++ i.caption.text)) i.meaning rest :=
    .bind (takes_spot i.image)
      (.bind (takes_spaces i.captionGap (blankAhead_spot false i.caption _))
        ((takes_spot i.caption).map _))
  have htext : i.text = i.toSize ++ (i.image.text ++ (spaces i.captionGap ++ i.caption.text)) := by
    simp [Compact.text, Compact.toSize]
  rw [htext]
  refine Continues.covers ?_ hplaces.covers
  simpa [Spot.text] using continues_toSize i
    ([i.image.row] ++ (spaces i.captionGap ++ i.caption.text) ++ rest)

/-- A clause is read from behind its keyword on. -/
theorem covers_clause (hkeys : ∀ key, key ∈ dialect.keys) {screenSet : Bool} (clause : Clause α)
    (hends : clause.Ends dialect.strictNewlines rest) (hplace : clause.InPlace screenSet) :
    Covers (dialect.directive screenSet clause.keyword) clause.body clause.meaning rest := by
  cases clause with
  | screen size =>
    obtain ⟨hends, hcloses⟩ := hends
    obtain ⟨rfl, hx, hy⟩ := hplace
    exact covers_screen size hends hcloses hx hy
  | imageDir path => exact (covers_path path hends).map _
  | captionDir path => exact (covers_path path hends).map _
  | slide s => exact .nil_bind (.require hplace) (covers_slide s hends)
  | compact i => exact .nil_bind (.require hplace) (covers_numbered i rest)
  | image f =>
    exact .nil_bind (.require hplace) (.bind (takes_spaces f.before rfl)
      (covers_image hkeys f hends.1 hends.2))
  | customImage f =>
    exact .nil_bind (.require hplace) (.bind (takes_spaces f.before rfl)
      (covers_framed hkeys f .customImage hends.1 hends.2))

/-! ### Descriptions -/

/-- A phrase is its keyword and what follows it. -/
theorem covers_phrase {screenSet : Bool} {keyword : Keyword} {d : Directive α} {text : List Char}
    (hkeyword : keyword ∈ dialect.keywords) (hword : Avoids isWordChar (text ++ rest))
    (h : Covers (dialect.directive screenSet keyword) text d rest) :
    Covers (dialect.phrase screenSet) (keyword.spelling.toList ++ text) (some (.directive d))
      rest :=
  (dialect.continues_phrase screenSet hkeyword hword).covers
    (h.map fun d => some (Phrase.directive d))

/-- A character that is not blank is skipped if no keyword stands there. -/
theorem phrase_of_skipped {screenSet : Bool} {x : Char} (hc : c.rest = x :: rest)
    (hblank : blankAhead true (x :: rest) = false)
    (hword : ∀ keyword : Keyword, ¬BeginsWord keyword.spelling (x :: rest)) :
    dialect.phrase (α := α) screenSet c = .ok (some (.skipped x c.line c.column)) c.step := by
  have hskip : c.skipBlanks true = c := skipBlanks_of_not_blankAhead (by rw [hc]; exact hblank)
  have hnone : wordOf Keyword.spelling dialect.keywords c = .ok none c := by
    have hfind : (dialect.keywords.find? fun keyword => c.hasWord keyword.spelling) = none := by
      refine List.find?_eq_none.mpr fun keyword _ hkeyword => hword keyword ?_
      rw [← hc]
      exact hasWord_iff.mp hkeyword
    simp only [wordOf, hfind]
  rw [Dialect.phrase_eq, hskip, if_neg (by simp [hc]), bind_apply, hnone]
  show (Dialect.skipped >>= fun phrase => pure (some phrase)) c = _
  rw [bind_apply, Dialect.skipped_apply hc]
  rfl

end Grammar

namespace Reading

open Cursor Reader Grammar

variable {α : Type} [Scalar α] {dialect : Dialect} {c : Cursor}

/-- A phrase that lies ahead is taken. -/
theorem conclude_of_covers {draft : Draft α} {phrase : Phrase α} {text rest : List Char}
    (h : Covers (dialect.phrase draft.screen.isSome) text (some phrase) rest)
    (hc : c.rest = text ++ rest) :
    conclude dialect draft c = conclude dialect (draft.take phrase) (c.forward text.length) := by
  obtain ⟨c', hphrase, hahead⟩ := h c hc
  rw [conclude_eq, hphrase]
  exact conclude_of_sameAhead dialect _ hahead

/-- Segments that fit are read to their end, and as what they mean. -/
theorem conclude_segments (hkeywords : ∀ keyword, keyword ∈ dialect.keywords)
    (hkeys : ∀ key, key ∈ dialect.keys) {segments : List (Segment α)} {draft : Draft α}
    (hfit : Fit dialect.strictNewlines draft.screen.isSome segments)
    (hc : c.rest = segments.flatMap Segment.text) :
    conclude dialect draft c = ((meanings segments).foldl Draft.obey draft, none) := by
  induction segments generalizing draft c with
  | nil => exact conclude_nil dialect draft hc
  | cons segment segments ih =>
    obtain ⟨hfits, hfit⟩ := hfit
    replace hc : c.rest = segment.text ++ segments.flatMap Segment.text := hc
    have hrest : (c.forward segment.text.length).rest = segments.flatMap Segment.text := by
      rw [forward_rest, hc, List.drop_left]
    rw [foldl_meanings_cons]
    cases segment with
    | blanks b =>
      rw [← conclude_of_sameAhead dialect draft (sameAhead_blanks b hc)]
      exact ih (by simpa [Segment.setsScreen] using hfit) hrest
    | skipped x =>
      obtain ⟨hblank, hword⟩ := hfits
      -- A character that is skipped is a phrase, but one without any effect.
      rw [conclude_eq, phrase_of_skipped hc hblank hword]
      show conclude dialect draft c.step = _
      exact ih (by simpa [Segment.setsScreen] using hfit) hrest
    | clause clause =>
      obtain ⟨hword, hends, hplace⟩ := hfits
      have hphrase := covers_phrase (hkeywords clause.keyword) hword
        (covers_clause hkeys clause hends hplace)
      rw [conclude_of_covers hphrase hc]
      refine ih ?_ hrest
      rw [← setsScreen_meaning] at hfit
      rwa [Draft.isSome_screen_take]

/-- Just those texts are accepted that consist of blanks, of characters at which no keyword stands,
and of clauses, each in its place. What they describe is what their clauses mean, one after the
other. -/
theorem parse_eq_ok_iff (strictNewlines : Bool) (text : String) (draft : Draft α) :
    parse { strictNewlines } text = .ok draft ↔
      ∃ segments : List (Segment α), text.toList = segments.flatMap Segment.text ∧
        Fit strictNewlines false segments ∧
        draft = (meanings segments).foldl Draft.obey .initial := by
  let dialect : Dialect := { strictNewlines }
  have hparse : parse dialect text = .ok draft ↔
      conclude dialect .initial (.ofText text) = (draft, none) := by
    rw [parse_eq_conclude]
    obtain ⟨draft', failure⟩ := conclude (α := α) dialect .initial (.ofText text)
    cases failure <;> simp
  rw [hparse]
  constructor
  · intro h
    have hread : (conclude dialect (.initial : Draft α) (.ofText text)).2 = none :=
      congrArg Prod.snd h
    obtain ⟨segments, htext, hfit, hdraft⟩ := exists_segments Keyword.mem_all hread
    exact ⟨segments, htext, hfit, (congrArg Prod.fst h).symm.trans hdraft⟩
  · rintro ⟨segments, htext, hfit, rfl⟩
    exact conclude_segments Keyword.mem_all Key.mem_all hfit htext

end Reading

end Slideshow
