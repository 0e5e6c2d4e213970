import Slideshow.Proofs.Description.Acceptance

/-!
# Reading what was written

A written description is read as what it says, whatever spaces, empty lines and remarks it was
written with, and whether or not every assignment has to end its line.

## Main definitions

* `Written.Directive.clause`: what a written directive is in the grammar.

## Main statements

* `Written.Directive.ends_clause`: written at the end of its line, a directive is complete.
* `Written.covers_directive`: hence it is read.
* `Reading.parse_written`: so is a description.

## Design notes

A dialect that wants a line end behind an assignment takes it with the assignment, another one
leaves it to the blanks before the next directive. Hence a directive `Covers` its line.
-/

namespace Slideshow

namespace Written

open Reader
open Grammar (isBlank lineCloses Entry EntriesFit Clause)

variable {α : Type} [Scalar α] {rest : List Char}

/-! ### Ends of lines -/

theorem isBlank_of_forall {chars : List Char} (h : ∀ x ∈ chars, x = ' ' ∨ x = '\n') :
    isBlank chars = true := by
  induction chars with
  | nil => rfl
  | cons x chars ih =>
    obtain ⟨hx, hchars⟩ := List.forall_mem_cons.mp h
    obtain rfl | rfl := hx <;> exact ih hchars

theorem lineCloses_spaces (inBlock : Bool) (n : Nat) (rest : List Char) :
    lineCloses inBlock (spaces n ++ '\n' :: rest) = true := by
  induction n with
  | zero => rfl
  | succ n ih => exact ih

theorem Numeral.ends_newline (n : Numeral) (gap : Nat) (rest : List Char) :
    n.Ends (spaces gap ++ '\n' :: rest) :=
  ends_of_avoids n (avoids_spaces (by decide) (avoids_cons (by decide)))

theorem Setting.ends_newline (s : Setting) (rest : List Char) : s.Ends ('\n' :: rest) := by
  cases s with
  | position a | size a => exact a.value.y.ends_newline a.behind rest
  | start a | duration a | fadeIn a | fadeOut a => exact a.value.ends_newline a.behind rest

/-- Between spaces and a number with a sign there is always something apart. -/
theorem avoids_apart {p : Char → Bool} (hspace : p ' ' = false) (hminus : p '-' = false) {n : Nat}
    {numeral : Numeral} (h : 0 < n ∨ numeral.negative = true) :
    Avoids p (spaces n ++ (numeral.text ++ rest)) := by
  cases n with
  | succ n => exact avoids_cons hspace
  | zero =>
    have hnegative : numeral.negative = true := h.resolve_left (Nat.lt_irrefl 0)
    have htext : numeral.text = '-' :: (numeral.whole ++ Numeral.fraction numeral.places) := by
      rw [Numeral.text, Numeral.sign, hnegative]
      rfl
    rw [htext]
    exact avoids_cons hminus

/-! ### Blocks -/

def Blanks.toGrammar (blanks : Blanks) : Grammar.Blanks :=
  ⟨blanks.chars, isBlank_of_forall blanks.blank⟩

/-- What stands between a property and the next one. -/
def PropertyLine.gap (line : PropertyLine) : Grammar.Blanks :=
  ⟨'\n' :: line.blanks.chars,
    (isBlank_of_forall line.blanks.blank : isBlank line.blanks.chars = true)⟩

/-- The properties with the blanks before instead of behind them. -/
def entriesFrom (before : Grammar.Blanks) : List PropertyLine → List Entry
  | [] => []
  | line :: lines => ⟨before, line.setting⟩ :: entriesFrom line.gap lines

/-- The blanks behind the last property. -/
def closingFrom (before : Grammar.Blanks) : List PropertyLine → Grammar.Blanks
  | [] => before
  | line :: lines => closingFrom line.gap lines

theorem text_entriesFrom (before : Grammar.Blanks) (lines : List PropertyLine)
    (rest : List Char) :
    (entriesFrom before lines).flatMap Entry.text ++ ((closingFrom before lines).chars ++ rest) =
      before.chars ++ (lines.flatMap PropertyLine.text ++ rest) := by
  induction lines generalizing before with
  | nil => rfl
  | cons line lines ih =>
    simp [entriesFrom, closingFrom, Entry.text, PropertyLine.text, ih, PropertyLine.gap]

theorem meaning_entriesFrom (before : Grammar.Blanks) (lines : List PropertyLine) :
    (entriesFrom before lines).map (·.setting.meaning (α := α)) =
      lines.map (·.setting.meaning) := by
  induction lines generalizing before with
  | nil => rfl
  | cons line lines ih => rw [entriesFrom, List.map_cons, List.map_cons, ih]

/-- Every property ends its line. -/
theorem entriesFit (strict : Bool) (before : Grammar.Blanks) (lines : List PropertyLine)
    (rest : List Char) :
    EntriesFit strict (entriesFrom before lines) ((closingFrom before lines).chars ++ rest) := by
  induction lines generalizing before with
  | nil => trivial
  | cons line lines ih =>
    have hnext := text_entriesFrom line.gap lines rest
    refine ⟨?_, fun _ => ?_, ih line.gap⟩
    · rw [closingFrom, hnext]
      exact line.setting.ends_newline _
    · rw [closingFrom, hnext]
      rfl

namespace Block

def toGrammar (b : Block) : Grammar.Block :=
  ⟨b.before.toGrammar, entriesFrom b.inside.toGrammar b.lines,
    closingFrom b.inside.toGrammar b.lines⟩

theorem text_toGrammar (b : Block) : b.text = b.toGrammar.text ++ spaces b.behind := by
  have hbefore : b.before.toGrammar.chars = b.before.chars := rfl
  have hinside : _ = b.inside.chars ++ (b.lines.flatMap PropertyLine.text ++ '\x7d' ::
      spaces b.behind) :=
    text_entriesFrom b.inside.toGrammar b.lines _
  rw [Block.text, ← hinside]
  simp [Grammar.Block.text, Grammar.Block.close, toGrammar, hbefore]

theorem fits_toGrammar (strict : Bool) (b : Block) (rest : List Char) :
    b.toGrammar.Fits strict rest := by
  rw [Grammar.Block.Fits, Grammar.Block.close, List.append_assoc]
  exact entriesFit strict _ b.lines _

theorem meaning_toGrammar (b : Block) : b.toGrammar.meaning = (b.meaning : List (Property α)) :=
  meaning_entriesFrom _ b.lines

end Block

def Framed.toGrammar (f : Framed) : Grammar.Framed :=
  ⟨f.before, f.name, f.block.toGrammar⟩

theorem Framed.text_toGrammar (f : Framed) :
    f.text = f.toGrammar.text ++ spaces f.block.behind := by
  simp [Framed.text, Grammar.Framed.text, toGrammar, f.block.text_toGrammar]

/-! ### Compact images -/

/-- The letter of a row does not continue the number of the column. -/
theorem Spot.column_ends (s : Spot α) : s.column.Ends [s.row] := by
  have hdigit : ¬s.row ≤ '9' := fun hle => absurd (Char.le_trans s.letter.1 hle) (by decide)
  have hpoint : s.row ≠ '.' := fun heq => absurd (heq ▸ s.letter.1) (by decide)
  refine ends_of_avoids _ (avoids_cons ?_)
  simp [continuesNumber, isDigit, hdigit, hpoint]

def Spot.toGrammar (s : Spot α) : Grammar.Spot α :=
  ⟨s.column, s.row, s.column_ends⟩

def Compact.toGrammar (i : Compact α) : Grammar.Compact α where
  numberGap := i.numberGap
  number := i.number
  sizeGap := i.sizeGap
  size := i.size
  imageGap := i.imageGap
  image := i.image.toGrammar
  captionGap := i.captionGap
  caption := i.caption.toGrammar
  number_ends := ends_of_avoids _ (avoids_apart (by decide) (by decide) i.size_apart)
  size_ends := ends_of_avoids _ (avoids_apart (by decide) (by decide) i.image_apart)

theorem Compact.text_toGrammar (i : Compact α) :
    i.text = i.toGrammar.text ++ spaces i.behind := by
  simp only [Compact.text, Grammar.Compact.text, List.append_assoc]
  rfl

/-! ### Directives -/

namespace Directive

def clause : Directive α → Clause α
  | .imageDir path => .imageDir path
  | .captionDir path => .captionDir path
  | .slide s => .slide s
  | .compact i => .compact i.toGrammar
  | .image f => .image f.toGrammar
  | .customImage f => .customImage f.toGrammar

/-- The number of spaces that are left behind the clause. -/
def behind : Directive α → Nat
  | .imageDir _ | .captionDir _ | .slide _ => 0
  | .compact i => i.behind
  | .image f | .customImage f => f.block.behind

theorem keyword_clause (d : Directive α) : d.clause.keyword = d.keyword := by
  cases d <;> rfl

theorem text_clause (d : Directive α) : d.text = d.clause.body ++ spaces d.behind := by
  cases d with
  | imageDir | captionDir | slide => exact (List.append_nil _).symm
  | compact i => exact i.text_toGrammar
  | image f | customImage f => exact f.text_toGrammar

theorem meaning_clause (d : Directive α) : d.clause.meaning = d.meaning := by
  cases d with
  | imageDir | captionDir | slide | compact => rfl
  | image f | customImage f =>
    simp only [clause, meaning, Clause.meaning, Framed.toGrammar, Block.meaning_toGrammar]

theorem ends_clause (strict : Bool) (d : Directive α) (rest : List Char) :
    d.clause.Ends strict (spaces d.behind ++ '\n' :: rest) := by
  cases d with
  | imageDir | captionDir => exact fun _ => rfl
  | slide s => exact s.seconds.ends_newline s.behind rest
  | compact => trivial
  | image f | customImage f =>
    exact ⟨f.block.fits_toGrammar strict _, lineCloses_spaces false f.block.behind rest⟩

theorem inPlace_clause (d : Directive α) : d.clause.InPlace true := by
  cases d <;> trivial

end Directive

theorem blank_spaces_newline (n : Nat) : ∀ x ∈ spaces n ++ ['\n'], x = ' ' ∨ x = '\n' := by
  intro x hx
  obtain hx | hx := List.mem_append.mp hx
  · exact .inl (List.eq_of_mem_replicate hx)
  · exact .inr (List.mem_singleton.mp hx)

theorem covers_screen (dialect : Dialect) (size : Assignment Pair)
    (hx : Scalar.isZero (size.value.x.value : α) = false)
    (hy : Scalar.isZero (size.value.y.value : α) = false) :
    Covers (dialect.screen false : Reader (Slideshow.Directive α)) (size.text Pair.text ++ ['\n'])
      (.screen size.value.value) rest :=
  (Grammar.covers_screen size (size.value.y.ends_newline size.behind rest) (fun _ => rfl) hx
    hy).append_blanks (blank_spaces_newline 0)

theorem covers_directive (dialect : Dialect) (hkeys : ∀ key, key ∈ dialect.keys) (d : Directive α) :
    Covers (dialect.directive true d.keyword) (d.text ++ ['\n']) d.meaning rest := by
  have hclause := Grammar.covers_clause hkeys d.clause (d.ends_clause dialect.strictNewlines rest)
    d.inPlace_clause
  rw [d.keyword_clause, d.meaning_clause] at hclause
  -- The clause ends before the spaces behind it, which are blanks like the line end.
  rw [d.text_clause, List.append_assoc]
  refine Covers.append_blanks ?_ (blank_spaces_newline d.behind)
  simpa using hclause

/-- What follows a keyword does not continue it. -/
theorem avoids_directive (d : Directive α) :
    Avoids Cursor.isWordChar (d.text ++ ['\n'] ++ rest) := by
  rw [List.append_assoc]
  cases d with
  | imageDir path => exact avoids_assignment path _
  | captionDir path => exact avoids_assignment path _
  | slide s =>
    simp only [Directive.text, Slide.text, List.append_assoc]
    exact avoids_spaces (by decide) (avoids_cons (by decide))
  | compact i =>
    simp only [Directive.text, Compact.text, List.append_assoc]
    exact avoids_apart (by decide) (by decide) i.number_apart
  | image f =>
    simp only [Directive.text, Framed.text, List.append_assoc]
    exact avoids_spaces (by decide) (avoids_cons (by decide))
  | customImage f =>
    simp only [Directive.text, Framed.text, List.append_assoc]
    exact avoids_spaces (by decide) (avoids_cons (by decide))

end Written

namespace Reading

open Reader Written
open Grammar (covers_phrase)

variable {α : Type} [Scalar α]

theorem conclude_remark (dialect : Dialect) (draft : Draft α) {chars rest : List Char}
    (hplain : ∀ x ∈ chars, x ∉ ['s', 'i', 'c']) {c : Cursor} (hc : c.rest = chars ++ rest) :
    conclude dialect draft c = conclude dialect draft (c.forward chars.length) := by
  induction chars generalizing c with
  | nil => rfl
  | cons x chars ih =>
    have hstep : conclude dialect draft c = conclude dialect draft c.step := by
      cases hblank : Cursor.blankAhead true c.rest with
      -- A blank is no phrase of its own.
      | true => exact conclude_of_sameAhead dialect draft (.symm (.step hblank))
      | false =>
        have hskip := Cursor.skipBlanks_of_not_blankAhead hblank
        have hrest : (c.skipBlanks true).rest = x :: (chars ++ rest) := by rw [hskip, hc]; rfl
        rw [conclude_eq, dialect.phrase_of_not_mem _ hrest (hplain x List.mem_cons_self), hskip]
        rfl
    rw [hstep]
    exact ih (fun y hy => hplain y (List.mem_cons_of_mem _ hy)) (by simp [hc])

/-- A directive is taken with its line end and the remark behind it. -/
theorem conclude_line (dialect : Dialect) (draft : Draft α) (remark : Remark) (rest : List Char)
    {keyword : Keyword} {d : Directive α} {text : List Char} (hkeyword : keyword ∈ dialect.keywords)
    (hword : Avoids Cursor.isWordChar (text ++ ['\n'] ++ (remark.chars ++ rest)))
    (h : Covers (dialect.directive draft.screen.isSome keyword) (text ++ ['\n']) d
      (remark.chars ++ rest)) {c : Cursor}
    (hc : c.rest = keyword.spelling.toList ++ (text ++ '\n' :: (remark.chars ++ rest))) :
    ∃ c', c'.rest = rest ∧ conclude dialect draft c = conclude dialect (draft.obey d) c' := by
  let line := keyword.spelling.toList ++ (text ++ ['\n'])
  have hline : c.rest = line ++ (remark.chars ++ rest) := by
    simp [hc, line]
  have hrest : (c.forward line.length).rest = remark.chars ++ rest := by
    simp [hline]
  refine ⟨(c.forward line.length).forward remark.chars.length, ?_, ?_⟩
  · rw [Cursor.forward_rest, hrest, List.drop_left]
  · rw [conclude_of_covers (covers_phrase hkeyword hword h) hline,
      conclude_remark dialect _ remark.plain hrest]
    rfl

/-- The lines of a description are taken one after the other. -/
theorem conclude_lines (dialect : Dialect) (hkeywords : ∀ keyword, keyword ∈ dialect.keywords)
    (hkeys : ∀ key, key ∈ dialect.keys) (lines : List (Line α)) {draft : Draft α}
    (hset : draft.screen.isSome = true) {c : Cursor} (hc : c.rest = lines.flatMap Line.text) :
    conclude dialect draft c =
      ((lines.map (·.directive.meaning)).foldl Draft.obey draft, none) := by
  induction lines generalizing draft c with
  | nil => exact conclude_nil dialect draft hc
  | cons line lines ih =>
    obtain ⟨c', hc', hline⟩ := conclude_line dialect draft line.remark
      (lines.flatMap Line.text) (hkeywords line.directive.keyword)
      (avoids_directive line.directive) (hset ▸ covers_directive dialect hkeys line.directive)
      (c := c) (by simp [hc, Line.text])
    have hset' : (draft.obey line.directive.meaning).screen.isSome = true := by
      have htake := draft.isSome_screen_take (.directive line.directive.meaning)
      rw [hset] at htake
      exact htake
    rw [hline, ih hset' hc']
    rfl

/-- Whatever spaces, empty lines and remarks a description is written with, it is read as what its
directives amount to, one after the other, whether or not assignments have to end their lines. -/
theorem parse_written (strictNewlines : Bool) (d : Description α) :
    parse { strictNewlines } (String.ofList d.text) =
      .ok (d.meaning.foldl Draft.obey .initial) := by
  let dialect : Dialect := { strictNewlines }
  have hconclude : conclude dialect .initial (.ofText (String.ofList d.text)) =
      (d.meaning.foldl Draft.obey .initial, none) := by
    let c := Cursor.ofText (String.ofList d.text)
    have hc : c.rest = d.lead.chars ++ (Keyword.screen.spelling.toList ++
        (d.screen.text Pair.text ++ '\n' :: (d.remark.chars ++ d.lines.flatMap Line.text))) := by
      simp [c, Cursor.ofText, Description.text]
    have hlead : (c.forward d.lead.chars.length).rest = Keyword.screen.spelling.toList ++
        (d.screen.text Pair.text ++ '\n' :: (d.remark.chars ++ d.lines.flatMap Line.text)) := by
      simp [hc]
    obtain ⟨c', hc', hscreen⟩ := conclude_line dialect .initial d.remark
      (d.lines.flatMap Line.text) (Keyword.mem_all .screen)
      (by rw [List.append_assoc]; exact avoids_assignment d.screen _)
      (covers_screen dialect d.screen d.screen_ne_zero.1 d.screen_ne_zero.2) hlead
    show conclude dialect .initial c = _
    rw [conclude_remark dialect _ d.lead.plain hc, hscreen,
      conclude_lines dialect Keyword.mem_all Key.mem_all d.lines rfl hc']
    rfl
  rw [parse_eq_conclude, hconclude]

end Reading

end Slideshow
