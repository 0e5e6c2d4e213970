import Slideshow.Proofs.Cursor.Taken
import Slideshow.Proofs.Description.Grammar
import Slideshow.Proofs.Description.Strictness

/-!
# Derivations of what was read

Whatever a reader takes without a failure is written according to the grammar, and it is read as
what it means there.

## Main definitions

* `Grammar.Derives`: a reader takes nothing but what is written in a certain way.

## Main statements

* `Grammar.derives_number`, `Grammar.derives_vec`, ...: the readers of values do.
* `Grammar.exists_entries`: the properties of a block are its entries.
* `Grammar.exists_clause`: what follows a keyword completes a clause.
* `Grammar.phrase_eq_some`: the next phrase is a character or a directive.
* `Grammar.exists_segments`: a text that is read to its end consists of segments.
-/

namespace Slideshow

namespace Grammar

open Cursor Reader Written

variable {α β : Type} {c c' : Cursor}

/-! ### Blanks -/

/-- Spaces end before the carriage return of a line end, or before what is not blank. -/
theorem exists_spaces (h : blankAhead true (c.skipBlanks false).rest = false) :
    ∃ n, Took (spaces n) c (c.skipBlanks false) := by
  fun_induction Cursor.skipBlanks false c with
  | case1 c hblank ih =>
    obtain hspace | ⟨hfalse, -⟩ | ⟨more, hreturn⟩ := blankAhead_cases hblank
    · obtain ⟨n, hn⟩ := ih h
      exact ⟨n + 1, .cons hspace hn⟩
    · cases hfalse
    · have hstep : c.step.rest = '\n' :: more := by rw [step_rest, hreturn]; rfl
      rw [skipBlanks_of_not_blankAhead (by rw [hstep]; rfl), hstep] at h
      cases h
  | case2 c _ => exact ⟨0, .nil c⟩

theorem exists_blanks (c : Cursor) : ∃ b : Blanks, Took b.chars c (c.skipBlanks true) := by
  fun_induction Cursor.skipBlanks true c with
  | case1 c hblank ih =>
    obtain ⟨⟨chars, hchars⟩, htook⟩ := ih
    obtain hspace | ⟨-, hline⟩ | ⟨more, hreturn⟩ := blankAhead_cases hblank
    · exact ⟨⟨' ' :: chars, hchars⟩, .cons hspace htook⟩
    · exact ⟨⟨'\n' :: chars, hchars⟩, .cons hline htook⟩
    · have hstep : c.step.rest = '\n' :: more := by rw [step_rest, hreturn]; rfl
      refine ⟨⟨'\r' :: chars, ?_⟩, .cons (by rw [hreturn]; rfl) htook⟩
      -- The line feed behind the carriage return is blank as well, so it has been skipped.
      have hrest := htook.rest
      cases chars with
      | nil =>
        have hleft := blankAhead_skipBlanks true c.step
        rw [← List.nil_append (c.step.skipBlanks true).rest, ← hrest, hstep] at hleft
        cases hleft
      | cons x chars =>
        rw [hstep] at hrest
        obtain rfl := (List.cons.inj hrest).1
        exact hchars
  | case2 c _ => exact ⟨⟨[], rfl⟩, .nil c⟩

/-! ### Ends of lines -/

theorem lineCloses_eq_closed (inBlock : Bool) (h : blankAhead false c.rest = false) :
    lineCloses inBlock c.rest = AssignmentEnd.closed ⟨inBlock, c⟩ := by
  unfold AssignmentEnd.closed
  cases hrest : c.rest with
  | nil => rfl
  | cons x rest =>
    rw [hrest] at h
    unfold lineCloses
    split <;> simp_all [blankAhead]

theorem lineCloses_skipBlanks (inBlock : Bool) (c : Cursor) :
    lineCloses inBlock (c.skipBlanks false).rest = lineCloses inBlock c.rest := by
  fun_induction Cursor.skipBlanks false c with
  | case1 c hblank ih =>
    obtain hspace | ⟨hfalse, -⟩ | ⟨more, hreturn⟩ := blankAhead_cases hblank
    · obtain ⟨rest, hrest⟩ := List.head?_eq_some_iff.mp hspace
      rw [ih, step_rest, hrest]
      rfl
    · cases hfalse
    · have hstep : c.step.rest = '\n' :: more := by rw [step_rest, hreturn]; rfl
      rw [skipBlanks_of_not_blankAhead (by rw [hstep]; rfl), hstep, hreturn]
      rfl
  | case2 c _ => rfl

/-- A line closes where spaces are skipped up to its end. -/
theorem closed_skipBlanks (inBlock : Bool) (c : Cursor) :
    AssignmentEnd.closed ⟨inBlock, c.skipBlanks false⟩ = lineCloses inBlock c.rest := by
  rw [← lineCloses_eq_closed inBlock (blankAhead_skipBlanks false c), lineCloses_skipBlanks]

theorem strict_eq {dialect : Dialect} (h : dialect.strictNewlines = true) :
    dialect.strict = dialect := by
  cases dialect
  cases h
  rfl

theorem endAssignment_eq_ok {dialect : Dialect} {inBlock : Bool} {u : Unit}
    (h : dialect.endAssignment inBlock c = .ok u c') :
    (dialect.strictNewlines = true → AssignmentEnd.closed ⟨inBlock, c⟩ = true) ∧
      c'.SameAhead c := by
  cases hstrict : dialect.strictNewlines with
  | false =>
    have hend : dialect.endAssignment inBlock c = .ok () c := by
      simp [Dialect.endAssignment, hstrict]
    rw [hend] at h
    cases h
    exact ⟨fun hfalse => absurd hfalse Bool.false_ne_true, .refl c⟩
  | true =>
    rw [← strict_eq hstrict] at h
    cases hclosed : AssignmentEnd.closed ⟨inBlock, c⟩ with
    | true =>
      obtain ⟨d, hd, hahead⟩ := dialect.endAssignment_strict_of_closed hclosed
      rw [hd] at h
      cases h
      exact ⟨fun _ => rfl, hahead⟩
    | false =>
      rw [dialect.endAssignment_strict_of_open hclosed] at h
      cases h

/-- A block ends like an assignment of a strict dialect. -/
theorem endBlock_eq (dialect : Dialect) :
    Dialect.endBlock = dialect.strict.endAssignment false := by
  funext c
  simp [Dialect.endBlock, Dialect.endAssignment, Dialect.strict]

/-! ### Values -/

/-- What the reader takes is the text of some `Value`, which ends there and means the answer. -/
def Derives {Value : Type} (r : Reader β) (text : Value → List Char)
    (ends : Value → List Char → Prop) (meaning : Value → β) : Prop :=
  ∀ {c b c'}, r c = .ok b c' → ∃ value, Took (text value) c c' ∧ ends value c'.rest ∧
    meaning value = b

theorem took_sign {negative : Bool} (h : accept '-' c = .ok negative c') :
    Took (Numeral.sign negative) c c' := by
  obtain ⟨rfl, htook⟩ | ⟨rfl, rfl, -⟩ := took_accept h
  · exact htook
  · exact .nil c'

variable [Scalar α]

theorem derives_number : Derives (number : Reader α) Numeral.text Numeral.Ends Numeral.value := by
  intro c x c' h
  obtain ⟨negative, c₁, hsign, h⟩ := bind_eq_ok h
  obtain ⟨whole, c₂, hwhole, h⟩ := bind_eq_ok h
  obtain ⟨hne, h⟩ := require_bind_eq_ok h
  obtain ⟨pointed, c₃, hpoint, h⟩ := bind_eq_ok h
  obtain ⟨places, c₄, hplaces, h⟩ := bind_eq_ok h
  cases h
  obtain ⟨htook, hdigits, hend⟩ := took_span hwhole
  replace hne : whole ≠ [] := by simpa using hne
  replace htook := (took_sign hsign).append htook
  obtain ⟨rfl, hdot⟩ | ⟨rfl, rfl, hdot⟩ := took_accept hpoint
  · obtain ⟨htook', hdigits', hend'⟩ := took_span hplaces
    refine ⟨⟨negative, whole, some places, hne, hdigits, hdigits'⟩, ?_, ?_, rfl⟩
    · simpa [Numeral.text, Numeral.fraction] using htook.append (hdot.append htook')
    · simpa [Numeral.Ends, Avoids] using hend'
  · cases hplaces
    refine ⟨⟨negative, whole, none, hne, hdigits, by simp⟩, ?_, ?_, rfl⟩
    · simpa [Numeral.text, Numeral.fraction] using htook
    · intro y hy
      have hne : y ≠ '.' := fun heq => hdot (heq ▸ hy)
      simp [hend y hy, hne]

theorem derives_vec : Derives (vec : Reader (Vec α)) Pair.text Pair.Ends Pair.value := by
  intro c v c' h
  obtain ⟨x, c₁, hx, h⟩ := bind_eq_ok h
  obtain ⟨_, c₂, hbefore, h⟩ := bind_eq_ok h
  obtain ⟨_, c₃, hcomma, h⟩ := bind_eq_ok h
  obtain ⟨_, c₄, hafter, h⟩ := bind_eq_ok h
  obtain ⟨y, c₅, hy, h⟩ := bind_eq_ok h
  cases h
  cases hbefore
  cases hafter
  obtain ⟨x, htook, -, rfl⟩ := derives_number hx
  obtain ⟨y, htook', hends, rfl⟩ := derives_number hy
  replace hcomma := took_expect hcomma
  obtain ⟨before, hbefore⟩ := exists_spaces (c := c₁) (by rw [hcomma.rest]; rfl)
  obtain ⟨after, hafter⟩ := exists_spaces (c := c₃) (by
    rw [htook'.rest]
    exact blankAhead_numeral true y)
  refine ⟨⟨x, before, after, y⟩, ?_, hends, rfl⟩
  exact htook.append (hbefore.append (hcomma.append (hafter.append htook')))

theorem derives_quoted : Derives quoted Quote.text (fun _ _ => True) Quote.content := by
  intro c name c' h
  obtain ⟨_, c₁, hopen, h⟩ := bind_eq_ok h
  obtain ⟨content, c₂, hcontent, h⟩ := bind_eq_ok h
  obtain ⟨_, c₃, hclose, h⟩ := bind_eq_ok h
  cases h
  obtain ⟨htook, hplain, -⟩ := took_span hcontent
  refine ⟨⟨String.ofList content, fun hmem => ?_⟩, ?_, trivial, rfl⟩
  · simpa using hplain '"' (by simpa using hmem)
  · have := (took_expect hopen).append (htook.append (took_expect hclose))
    simpa [Quote.text] using this

theorem derives_integer :
    Derives (integer α) (fun n : Counted α => n.text) (fun n => n.Ends) Counted.integer := by
  intro c n c' h
  obtain ⟨x, c₁, hx, h⟩ := bind_eq_ok h
  obtain ⟨x, htook, hends, rfl⟩ := derives_number hx
  cases htruncate : Scalar.truncate (x.value : α) with
  | error kind => rw [htruncate] at h; cases h
  | ok =>
    rw [htruncate] at h
    cases h
    exact ⟨⟨x, _, htruncate⟩, htook, hends, rfl⟩

/-- An assignment, up to the spaces behind it. -/
theorem exists_assignment {Value : Type} {r : Reader β} {text : Value → List Char}
    {ends : Value → List Char → Prop} {meaning : Value → β} (hr : Derives r text ends meaning)
    (hblank : ∀ value rest, blankAhead true (text value ++ rest) = false) {b : β}
    (h : assigned r c = .ok b c') :
    ∃ a : Assignment Value, ∃ d, Took (a.text text) c d ∧ a.Ends ends d.rest ∧
      meaning a.value = b ∧ c' = d.skipBlanks false := by
  obtain ⟨_, c₁, hbefore, h⟩ := bind_eq_ok h
  obtain ⟨_, c₂, hequals, h⟩ := bind_eq_ok h
  obtain ⟨_, c₃, hafter, h⟩ := bind_eq_ok h
  obtain ⟨b, c₄, hvalue, h⟩ := bind_eq_ok h
  obtain ⟨_, c₅, hbehind, h⟩ := bind_eq_ok h
  cases h
  cases hbefore
  cases hafter
  cases hbehind
  obtain ⟨value, htook, hends, rfl⟩ := hr hvalue
  replace hequals := took_expect hequals
  obtain ⟨before, hbefore⟩ := exists_spaces (c := c) (by rw [hequals.rest]; rfl)
  obtain ⟨after, hafter⟩ := exists_spaces (c := c₂) (by rw [htook.rest]; exact hblank _ _)
  refine ⟨⟨before, after, value, 0⟩, c₄, ?_, hends, rfl, rfl⟩
  have := hbefore.append (hequals.append (hafter.append htook))
  simpa [Assignment.text, spaces] using this

theorem exists_pair {v : Vec α} (h : assigned vec c = .ok v c') :
    ∃ a : Assignment Pair, ∃ d, Took (a.text Pair.text) c d ∧ a.Ends Pair.Ends d.rest ∧
      a.value.value = v ∧ c' = d.skipBlanks false :=
  exists_assignment derives_vec (blankAhead_pair true) h

theorem exists_numeral {x : α} (h : assigned number c = .ok x c') :
    ∃ a : Assignment Numeral, ∃ d, Took (a.text Numeral.text) c d ∧ a.Ends Numeral.Ends d.rest ∧
      a.value.value = x ∧ c' = d.skipBlanks false :=
  exists_assignment derives_number (fun n _ => blankAhead_numeral true n) h

/-! ### Blocks -/

theorem exists_setting {key : Key} {property : Property α}
    (h : Dialect.value key c = .ok property c') :
    ∃ s : Setting, s.key = key ∧ ∃ d, Took s.text c d ∧ s.Ends d.rest ∧ s.meaning = property ∧
      c' = d.skipBlanks false := by
  cases key <;> obtain ⟨_, _, hvalue, h⟩ := bind_eq_ok h <;> cases h
  case position =>
    obtain ⟨a, d, htook, hends, rfl, rfl⟩ := exists_pair hvalue
    exact ⟨.position a, rfl, d, htook, hends, rfl, rfl⟩
  case size =>
    obtain ⟨a, d, htook, hends, rfl, rfl⟩ := exists_pair hvalue
    exact ⟨.size a, rfl, d, htook, hends, rfl, rfl⟩
  all_goals obtain ⟨a, d, htook, hends, rfl, rfl⟩ := exists_numeral hvalue
  case start => exact ⟨.start a, rfl, d, htook, hends, rfl, rfl⟩
  case duration => exact ⟨.duration a, rfl, d, htook, hends, rfl, rfl⟩
  case fadeIn => exact ⟨.fadeIn a, rfl, d, htook, hends, rfl, rfl⟩
  case fadeOut => exact ⟨.fadeOut a, rfl, d, htook, hends, rfl, rfl⟩

/-- The end of an assignment, behind its spaces. -/
theorem lineCloses_of_endAssignment {dialect : Dialect} {inBlock : Bool} {u : Unit}
    (h : dialect.endAssignment inBlock (c.skipBlanks false) = .ok u c') :
    (dialect.strictNewlines = true → lineCloses inBlock c.rest = true) ∧ c'.SameAhead c := by
  obtain ⟨hclosed, hahead⟩ := endAssignment_eq_ok h
  rw [closed_skipBlanks] at hclosed
  exact ⟨hclosed, hahead.trans (.skipBlanks false c)⟩

/-- The next property of a block is an entry of it, or the block is closed. -/
theorem property_eq_ok {dialect : Dialect} {answer : Option (Property α)}
    (h : dialect.property c = .ok answer c') :
    (answer = none ∧ ∃ b : Blanks, Took (b.chars ++ ['\x7d']) c c') ∨
      ∃ e : Entry, ∃ d, answer = some e.setting.meaning ∧ Took e.text c d ∧
        e.setting.Ends d.rest ∧
        (dialect.strictNewlines = true → lineCloses true d.rest = true) ∧ c'.SameAhead d := by
  obtain ⟨blanks, hblanks⟩ := exists_blanks c
  obtain ⟨_, c₁, hskip, h⟩ := bind_eq_ok h
  obtain ⟨_, c₂, hend, h⟩ := bind_eq_ok h
  obtain ⟨-, h⟩ := require_bind_eq_ok h
  obtain ⟨closed, c₃, haccept, h⟩ := bind_eq_ok h
  cases hskip
  cases hend
  obtain ⟨rfl, hbrace⟩ | ⟨rfl, rfl, -⟩ := took_accept haccept
  · cases h
    exact .inl ⟨rfl, blanks, hblanks.append hbrace⟩
  · obtain ⟨key, c₄, hword, h⟩ := bind_eq_ok h
    cases key with
    | none => cases h
    | some key =>
      obtain ⟨hkey, -⟩ := took_wordOf hword
      obtain ⟨property, c₅, hvalue, h⟩ := bind_eq_ok h
      obtain ⟨_, c₆, hend, h⟩ := bind_eq_ok h
      cases h
      obtain ⟨s, rfl, d, htook, hends, rfl, rfl⟩ := exists_setting hvalue
      obtain ⟨hcloses, hahead⟩ := lineCloses_of_endAssignment hend
      exact .inr ⟨⟨blanks, s⟩, d, rfl, hblanks.append (hkey.append htook), hends, hcloses, hahead⟩

/-- The properties of a block are what its entries mean. -/
theorem exists_entries {dialect : Dialect} {done properties : List (Property α)}
    (h : dialect.propertiesFrom done c = .ok properties c') :
    ∃ (entries : List Entry) (closing : Blanks),
      Took (entries.flatMap Entry.text ++ (closing.chars ++ ['\x7d'])) c c' ∧
      EntriesFit dialect.strictNewlines entries (closing.chars ++ ['\x7d'] ++ c'.rest) ∧
      properties = done.reverse ++ entries.map (·.setting.meaning) := by
  -- Every entry takes its key, so what is ahead gets shorter.
  induction hn : c.rest.length using Nat.strongRecOn generalizing done c with
  | ind n ih =>
    rw [Dialect.propertiesFrom_eq] at h
    cases hproperty : dialect.property (α := α) c with
    | error e d => rw [hproperty] at h; cases h
    | ok answer c₁ =>
      rw [hproperty] at h
      obtain ⟨rfl, closing, hclosing⟩ | ⟨e, d, rfl, htook, hends, hcloses, hahead⟩ :=
        property_eq_ok hproperty
      · cases h
        exact ⟨[], closing, hclosing, trivial, by simp⟩
      · simp only at h
        rw [dialect.skips_propertiesFrom _ _ _ hahead] at h
        have hlt : d.rest.length < n := by
          have hpos := List.length_pos_iff.mpr (Dialect.key_ne_nil e.setting.key)
          rw [← hn, htook.rest]
          simp only [Entry.text, List.length_append]
          omega
        obtain ⟨entries, closing, htook', hfit, rfl⟩ := ih _ hlt h rfl
        have hrest : d.rest =
            entries.flatMap Entry.text ++ (closing.chars ++ ['\x7d'] ++ c'.rest) := by
          rw [htook'.rest]
          simp
        refine ⟨e :: entries, closing, ?_, ⟨hrest ▸ hends, hrest ▸ hcloses, hfit⟩, by simp⟩
        simpa using htook.append htook'

/-- Blanks behind the text are taken or left. -/
theorem exists_block {dialect : Dialect} {properties : List (Property α)}
    (h : dialect.block c = .ok properties c') :
    ∃ b : Block, ∃ d, Took b.text c d ∧ b.Fits dialect.strictNewlines d.rest ∧
      lineCloses false d.rest = true ∧ b.meaning = properties ∧ c'.SameAhead d := by
  obtain ⟨before, hbefore⟩ := exists_blanks c
  obtain ⟨_, c₁, hskip, h⟩ := bind_eq_ok h
  obtain ⟨_, c₂, hbrace, h⟩ := bind_eq_ok h
  obtain ⟨_, d, hproperties, h⟩ := bind_eq_ok h
  obtain ⟨_, c₃, hspaces, h⟩ := bind_eq_ok h
  obtain ⟨_, c₄, hend, h⟩ := bind_eq_ok h
  cases h
  cases hskip
  cases hspaces
  obtain ⟨entries, closing, htook, hfit, rfl⟩ := exists_entries hproperties
  rw [endBlock_eq dialect] at hend
  obtain ⟨hcloses, hahead⟩ := lineCloses_of_endAssignment hend
  refine ⟨⟨before, entries, closing⟩, d, ?_, hfit, hcloses rfl, rfl, hahead⟩
  exact hbefore.append ((took_expect hbrace).append htook)

theorem exists_framed {dialect : Dialect} {make : String → List (Property α) → Directive α}
    {d : Directive α} (h : dialect.framed make (c.skipBlanks false) = .ok d c') :
    ∃ f : Framed, ∃ e, Took f.text c e ∧ f.block.Fits dialect.strictNewlines e.rest ∧
      lineCloses false e.rest = true ∧ make f.name.content f.block.meaning = d ∧
      c'.SameAhead e := by
  obtain ⟨name, c₁, hname, h⟩ := bind_eq_ok h
  obtain ⟨_, c₂, hblock, h⟩ := bind_eq_ok h
  cases h
  obtain ⟨q, hquote, -, rfl⟩ := derives_quoted hname
  obtain ⟨b, e, htook, hfit, hcloses, rfl, hahead⟩ := exists_block hblock
  obtain ⟨before, hbefore⟩ := exists_spaces (c := c) (by rw [hquote.rest]; rfl)
  exact ⟨⟨before, q, b⟩, e, hbefore.append (hquote.append htook), hfit, hcloses, rfl, hahead⟩

/-! ### Clauses -/

theorem derives_cell :
    Derives (Dialect.cell α) (fun s : Spot α => s.text) (fun _ _ => True) Spot.meaning := by
  intro c cell c' h
  obtain ⟨_, c₁, hcolumn, h⟩ := bind_eq_ok h
  obtain ⟨row, c₂, hrow, h⟩ := bind_eq_ok h
  cases h
  obtain ⟨column, htook, hends, rfl⟩ := derives_integer hcolumn
  replace hrow := took_advance hrow
  rw [hrow.rest] at hends
  exact ⟨⟨column, row, avoids_of_append hends⟩, htook.append hrow, trivial, rfl⟩

theorem blankAhead_spot (newlines : Bool) (s : Spot α) (rest : List Char) :
    blankAhead newlines (s.text ++ rest) = false := by
  rw [Spot.text, List.append_assoc]
  exact blankAhead_numeral newlines s.column.toNumeral

theorem exists_compact {d : Directive α} (h : Dialect.compact (c.skipBlanks false) = .ok d c') :
    ∃ i : Compact α, Took i.text c c' ∧ i.meaning = d := by
  obtain ⟨_, c₁, hnumber, h⟩ := bind_eq_ok h
  obtain ⟨_, c₂, hskip, h⟩ := bind_eq_ok h
  cases hskip
  obtain ⟨_, c₃, hsize, h⟩ := bind_eq_ok h
  obtain ⟨_, c₄, hskip, h⟩ := bind_eq_ok h
  cases hskip
  obtain ⟨_, c₅, himage, h⟩ := bind_eq_ok h
  obtain ⟨_, c₆, hskip, h⟩ := bind_eq_ok h
  cases hskip
  obtain ⟨_, c₇, hcaption, h⟩ := bind_eq_ok h
  cases h
  obtain ⟨number, htook₁, hends₁, rfl⟩ := derives_integer hnumber
  obtain ⟨size, htook₂, hends₂, rfl⟩ := derives_vec hsize
  obtain ⟨image, htook₃, -, rfl⟩ := derives_cell himage
  obtain ⟨caption, htook₄, -, rfl⟩ := derives_cell hcaption
  obtain ⟨numberGap, hgap₁⟩ := exists_spaces (c := c) (by
    rw [htook₁.rest]
    exact blankAhead_numeral true number.toNumeral)
  obtain ⟨sizeGap, hgap₂⟩ := exists_spaces (c := c₁) (by
    rw [htook₂.rest]
    exact blankAhead_pair true size _)
  obtain ⟨imageGap, hgap₃⟩ := exists_spaces (c := c₃) (by
    rw [htook₃.rest]
    exact blankAhead_spot true image _)
  obtain ⟨captionGap, hgap₄⟩ := exists_spaces (c := c₅) (by
    rw [htook₄.rest]
    exact blankAhead_spot true caption _)
  rw [(hgap₂.append htook₂).rest] at hends₁
  rw [(hgap₃.append htook₃).rest] at hends₂
  refine ⟨⟨numberGap, number, sizeGap, size, imageGap, image, captionGap, caption,
    avoids_of_append hends₁, avoids_of_append hends₂⟩, ?_, rfl⟩
  exact hgap₁.append (htook₁.append (hgap₂.append (htook₂.append (hgap₃.append (htook₃.append
    (hgap₄.append htook₄))))))

theorem exists_slide {d : Directive α} (h : Dialect.slide c = .ok d c') :
    ∃ s : Slide, Took s.text c c' ∧ s.seconds.Ends (spaces s.behind ++ c'.rest) ∧
      .slide s.name.content s.seconds.value = d := by
  obtain ⟨_, c₁, hskip, h⟩ := bind_eq_ok h
  cases hskip
  obtain ⟨_, c₂, hname, h⟩ := bind_eq_ok h
  obtain ⟨_, c₃, hskip, h⟩ := bind_eq_ok h
  cases hskip
  obtain ⟨_, c₄, hseconds, h⟩ := bind_eq_ok h
  cases h
  obtain ⟨name, htook, -, rfl⟩ := derives_quoted hname
  obtain ⟨seconds, htook', hends, rfl⟩ := derives_number hseconds
  obtain ⟨before, hbefore⟩ := exists_spaces (c := c) (by rw [htook.rest]; rfl)
  obtain ⟨between, hbetween⟩ := exists_spaces (c := c₂) (by
    rw [htook'.rest]
    exact blankAhead_numeral true seconds)
  refine ⟨⟨before, name, between, seconds, 0⟩, ?_, hends, rfl⟩
  have := hbefore.append (htook.append (hbetween.append htook'))
  simpa [Slide.text, spaces] using this

theorem exists_path {dialect : Dialect} {path : String} (h : dialect.directory c = .ok path c') :
    ∃ a : Assignment Quote, ∃ d, Took (a.text Quote.text) c d ∧
      (dialect.strictNewlines = true → lineCloses false d.rest = true) ∧ a.value.content = path ∧
      c'.SameAhead d := by
  obtain ⟨_, c₁, hpath, h⟩ := bind_eq_ok h
  obtain ⟨_, c₂, hend, h⟩ := bind_eq_ok h
  cases h
  have hblank : ∀ (q : Quote) rest, blankAhead true (q.text ++ rest) = false := fun _ _ => rfl
  obtain ⟨a, d, htook, -, rfl, rfl⟩ := exists_assignment @derives_quoted hblank hpath
  obtain ⟨hcloses, hahead⟩ := lineCloses_of_endAssignment hend
  exact ⟨a, d, htook, hcloses, rfl, hahead⟩

/-- What follows a keyword completes a clause. -/
theorem exists_clause {dialect : Dialect} {screenSet : Bool} {keyword : Keyword} {d : Directive α}
    (h : dialect.directive screenSet keyword c = .ok d c') :
    ∃ clause : Clause α, clause.keyword = keyword ∧ ∃ e, Took clause.body c e ∧
      clause.Ends dialect.strictNewlines e.rest ∧ clause.InPlace screenSet ∧ clause.meaning = d ∧
      c'.SameAhead e := by
  cases keyword with
  | screen =>
    obtain ⟨hset, h⟩ := require_bind_eq_ok h
    obtain ⟨_, c₁, hsize, h⟩ := bind_eq_ok h
    obtain ⟨hzero, h⟩ := require_bind_eq_ok h
    obtain ⟨_, c₂, hend, h⟩ := bind_eq_ok h
    cases h
    obtain ⟨a, e, htook, hends, rfl, rfl⟩ := exists_pair hsize
    obtain ⟨hcloses, hahead⟩ := lineCloses_of_endAssignment hend
    refine ⟨.screen a, rfl, e, htook, ⟨hends, hcloses⟩, ⟨by simpa using hset, ?_⟩, rfl, hahead⟩
    simpa [Pair.value] using hzero
  | imageDir =>
    obtain ⟨_, c₁, hpath, h⟩ := bind_eq_ok h
    cases h
    obtain ⟨a, e, htook, hcloses, rfl, hahead⟩ := exists_path hpath
    exact ⟨.imageDir a, rfl, e, htook, hcloses, trivial, rfl, hahead⟩
  | captionDir =>
    obtain ⟨_, c₁, hpath, h⟩ := bind_eq_ok h
    cases h
    obtain ⟨a, e, htook, hcloses, rfl, hahead⟩ := exists_path hpath
    exact ⟨.captionDir a, rfl, e, htook, hcloses, trivial, rfl, hahead⟩
  | slide =>
    obtain ⟨hset, h⟩ := require_bind_eq_ok h
    obtain ⟨s, htook, hends, rfl⟩ := exists_slide h
    exact ⟨.slide s, rfl, c', htook, hends, hset, rfl, .refl c'⟩
  | customImage =>
    obtain ⟨hset, h⟩ := require_bind_eq_ok h
    obtain ⟨_, c₁, hskip, h⟩ := bind_eq_ok h
    cases hskip
    obtain ⟨f, e, htook, hfit, hcloses, rfl, hahead⟩ := exists_framed h
    exact ⟨.customImage f, rfl, e, htook, ⟨hfit, hcloses⟩, hset, rfl, hahead⟩
  | image =>
    obtain ⟨hset, h⟩ := require_bind_eq_ok h
    obtain ⟨_, c₁, hskip, h⟩ := bind_eq_ok h
    cases hskip
    obtain ⟨_, c₂, hpeek, h⟩ := bind_eq_ok h
    cases hpeek
    unfold Dialect.imageFrom at h
    split at h
    · obtain ⟨f, e, htook, hfit, hcloses, rfl, hahead⟩ := exists_framed h
      exact ⟨.image f, rfl, e, htook, ⟨hfit, hcloses⟩, hset, rfl, hahead⟩
    · obtain ⟨i, htook, rfl⟩ := exists_compact h
      exact ⟨.compact i, rfl, c', htook, trivial, hset, rfl, .refl c'⟩

/-! ### Descriptions -/

theorem setsScreen_meaning (clause : Clause α) :
    (Phrase.directive clause.meaning).setsScreen = (Segment.clause clause).setsScreen := by
  cases clause <;> rfl

/-- The next phrase is a character at which no keyword stands, or a keyword with a directive behind
it. Blanks stand before both. -/
theorem phrase_eq_some {dialect : Dialect} {screenSet : Bool} {phrase : Phrase α}
    (h : dialect.phrase screenSet c = .ok (some phrase) c') :
    ∃ b : Blanks, Took b.chars c (c.skipBlanks true) ∧
      ((∃ x line column, phrase = .skipped x line column ∧ Took [x] (c.skipBlanks true) c' ∧
          ∀ keyword ∈ dialect.keywords, (c.skipBlanks true).hasWord keyword.spelling = false) ∨
        ∃ (keyword : Keyword) (d : Directive α) (e : Cursor), phrase = .directive d ∧
          Took keyword.spelling.toList (c.skipBlanks true) e ∧ Avoids isWordChar e.rest ∧
          dialect.directive screenSet keyword e = .ok d c') := by
  obtain ⟨b, hblanks⟩ := exists_blanks c
  refine ⟨b, hblanks, ?_⟩
  rw [Dialect.phrase_eq] at h
  by_cases hne : (c.skipBlanks true).rest = []
  · rw [if_pos hne] at h
    cases h
  rw [if_neg hne] at h
  obtain ⟨keyword, e, hword, h⟩ := bind_eq_ok h
  cases keyword with
  | none =>
    obtain ⟨rfl, hnone⟩ := wordOf_eq_none hword
    obtain ⟨x, rest, hrest⟩ := List.exists_cons_of_ne_nil hne
    obtain ⟨_, _, hskipped, h⟩ := bind_eq_ok h
    rw [Dialect.skipped_apply hrest] at hskipped
    cases hskipped
    cases h
    exact .inl ⟨x, _, _, rfl, .cons (by rw [hrest]; rfl) (.nil _), hnone⟩
  | some keyword =>
    obtain ⟨d, _, hdirective, h⟩ := bind_eq_ok h
    cases h
    obtain ⟨hkeyword, hend⟩ := took_wordOf hword
    exact .inr ⟨keyword, d, e, rfl, hkeyword, hend, hdirective⟩

/-- The next phrase is a segment, with blanks before it. -/
theorem exists_segment {dialect : Dialect} {screenSet : Bool} {phrase : Phrase α}
    (hkeywords : ∀ keyword, keyword ∈ dialect.keywords)
    (h : dialect.phrase screenSet c = .ok (some phrase) c') :
    ∃ (b : Blanks) (segment : Segment α) (e : Cursor),
      Took (b.chars ++ segment.text) c e ∧ segment.text ≠ [] ∧
      segment.Fits dialect.strictNewlines screenSet e.rest ∧
      phrase.setsScreen = segment.setsScreen ∧
      (∀ draft : Draft α, draft.take phrase = segment.meaning?.elim draft draft.obey) ∧
      c'.SameAhead e := by
  obtain ⟨b, hblanks, ⟨x, line, column, rfl, htook, hnone⟩ |
    ⟨keyword, d, c₁, rfl, hkeyword, hend, hdirective⟩⟩ := phrase_eq_some h
  · have hblank := blankAhead_skipBlanks true c
    have hahead : x :: c'.rest = (c.skipBlanks true).rest := htook.rest.symm
    refine ⟨b, .skipped x, c', hblanks.append htook, List.cons_ne_nil _ _, ⟨?_, ?_⟩, rfl,
      fun _ => rfl, .refl _⟩
    · rwa [hahead]
    · intro keyword hbegins
      rw [hahead] at hbegins
      have hword := hasWord_iff.mpr hbegins
      rw [hnone keyword (hkeywords keyword)] at hword
      cases hword
  · obtain ⟨clause, rfl, e, htook, hends, hplace, rfl, hahead⟩ := exists_clause hdirective
    refine ⟨b, .clause clause, e, hblanks.append (hkeyword.append htook), ?_,
      ⟨htook.rest ▸ hend, hends, hplace⟩, setsScreen_meaning clause, fun _ => rfl, hahead⟩
    exact List.append_ne_nil_of_left_ne_nil (Dialect.keyword_ne_nil _) _

theorem foldl_meanings_cons (draft : Draft α) (segment : Segment α) (segments : List (Segment α)) :
    (meanings (segment :: segments)).foldl Draft.obey draft =
      (meanings segments).foldl Draft.obey (segment.meaning?.elim draft draft.obey) := by
  cases h : segment.meaning? <;> simp [meanings, h]

/-- A text that is read to its end consists of segments that fit. -/
theorem exists_segments {dialect : Dialect} (hkeywords : ∀ keyword, keyword ∈ dialect.keywords)
    {draft : Draft α} (h : (Reading.conclude dialect draft c).2 = none) :
    ∃ segments : List (Segment α), c.rest = segments.flatMap Segment.text ∧
      Fit dialect.strictNewlines draft.screen.isSome segments ∧
      (Reading.conclude dialect draft c).1 = (meanings segments).foldl Draft.obey draft := by
  -- Every phrase takes something, so what is ahead gets shorter.
  induction hn : c.rest.length using Nat.strongRecOn generalizing draft c with
  | ind n ih =>
    have hconclude := Reading.conclude_eq dialect draft c
    cases hphrase : dialect.phrase (α := α) draft.screen.isSome c with
    | error e d =>
      rw [hphrase] at hconclude
      rw [hconclude] at h
      cases h
    | ok phrase d =>
      rw [hphrase] at hconclude
      cases phrase with
      | none =>
        obtain ⟨b, hblanks⟩ := exists_blanks c
        obtain ⟨rfl, hnil⟩ := Dialect.phrase_eq_none hphrase
        refine ⟨[.blanks b], ?_, ⟨trivial, trivial⟩, by rw [hconclude]; rfl⟩
        rw [hblanks.rest, hnil]
        rfl
      | some phrase =>
        obtain ⟨b, segment, e, htook, hne, hfits, hset, htake, hahead⟩ :=
          exists_segment hkeywords hphrase
        simp only at hconclude
        rw [Reading.conclude_of_sameAhead dialect _ hahead] at hconclude
        rw [hconclude] at h ⊢
        have hlt : e.rest.length < n := by
          have hpos := List.length_pos_iff.mpr hne
          rw [← hn, htook.rest]
          simp only [List.length_append]
          omega
        obtain ⟨segments, hrest, hfit, hdraft⟩ := ih _ hlt h rfl
        rw [Draft.isSome_screen_take, hset] at hfit
        have hblanks : (draft.screen.isSome || (Segment.blanks (α := α) b).setsScreen) =
            draft.screen.isSome :=
          Bool.or_false _
        refine ⟨.blanks b :: segment :: segments, ?_, ⟨trivial, ?_⟩, ?_⟩
        · rw [htook.rest, hrest]
          simp [Segment.text]
        · rw [hblanks]
          exact ⟨hrest ▸ hfits, hfit⟩
        · rw [hdraft, htake, foldl_meanings_cons, foldl_meanings_cons]
          rfl

end Grammar

end Slideshow
