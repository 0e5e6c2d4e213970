import Slideshow.Proofs.Cursor.Extension
import Slideshow.Proofs.Description.Phrases

/-!
# More lines behind the end

What the readers of directives do when a line end and more text follow where the text has ended. A
directive at the end of a text is read again just so. Only the line end behind it, which the end of
the text stands in for, may now be taken.

## Main statements

* `Cursor.hasWord_extend`: a line end does not continue a word.
* `Dialect.follows_endAssignment`: the end of the text and a line end both close an assignment.
* `Dialect.extends_propertiesFrom`: a block that is closed stays as it is.
* `Dialect.follows_directive`, `Dialect.exists_phrase_extend`: what has been read is read again.
-/

namespace Slideshow

namespace Cursor

/-- A line end does not continue a word, and no part of one. -/
theorem hasWord_extend {word : String} (hword : ∀ x ∈ word.toList, isWordChar x = true) (c : Cursor)
    (rest : List Char) : (c.extend ('\n' :: rest)).hasWord word = c.hasWord word := by
  have hbegin : word.toList <+: c.rest ++ '\n' :: rest ↔ word.toList <+: c.rest := by
    refine ⟨fun h => ?_, fun h => h.trans (List.prefix_append ..)⟩
    obtain h' | ⟨more, hmore⟩ := List.prefix_or_prefix_of_prefix h (List.prefix_append ..)
    · exact h'
    · rw [← hmore, List.prefix_append_right_inj] at h
      cases more with
      | nil => simp [← hmore]
      | cons x more =>
        rw [List.cons_prefix_cons] at h
        exact absurd (hword '\n' (by simp [← hmore, h.1])) (by decide)
  have htext : (c.extend ('\n' :: rest)).hasText word = c.hasText word := by
    rw [Bool.eq_iff_iff, hasText_iff, hasText_iff]
    exact hbegin
  rw [hasWord, hasWord, htext]
  cases hw : c.hasText word with
  | false => rfl
  | true =>
    have hle : word.toList.length ≤ c.rest.length := (hasText_iff.mp hw).length_le
    rw [extend_rest, List.drop_append_of_le_length hle]
    cases c.rest.drop word.toList.length <;> simp [isWordChar]

end Cursor

open Reader

namespace Reader

variable {β : Type} {rest : List Char}

theorem Extends.wordOf {spelling : β → String}
    (hspelling : ∀ key, ∀ x ∈ (spelling key).toList, Cursor.isWordChar x = true) (keys : List β) :
    Extends ('\n' :: rest) (wordOf spelling keys) := by
  intro c b c' h
  have hfind : (keys.find? fun key => (c.extend ('\n' :: rest)).hasWord (spelling key)) =
      keys.find? fun key => c.hasWord (spelling key) := by
    congr 1
    funext key
    exact Cursor.hasWord_extend (hspelling key) c rest
  unfold Reader.wordOf at h ⊢
  rw [hfind]
  cases hkey : keys.find? fun key => c.hasWord (spelling key) with
  | none =>
    rw [hkey] at h
    cases h
    rfl
  | some key =>
    rw [hkey] at h
    cases h
    have hword := List.find?_some (p := fun key => c.hasWord (spelling key)) hkey
    have htext := (Bool.and_eq_true_iff.mp hword).1
    have hle := (Cursor.hasText_iff.mp htext).length_le
    rw [← Cursor.forward_extend hle]

end Reader

namespace Dialect

variable {α β : Type} [Scalar α] {rest : List Char}

theorem extends_endAssignment {dialect : Dialect} {inBlock : Bool} {tail : List Char}
    {c c' : Cursor} (hne : c.rest ≠ []) (h : dialect.endAssignment inBlock c = .ok () c') :
    dialect.endAssignment inBlock (c.extend tail) = .ok () (c'.extend tail) := by
  obtain ⟨x, xs, hrest⟩ := List.exists_cons_of_ne_nil hne
  simp only [endAssignment, Cursor.extend_rest, hrest, List.cons_append, List.isEmpty_cons,
    List.head?_cons] at h ⊢
  split
  · next hclosed =>
    rw [if_pos hclosed] at h
    cases h
    rfl
  · next hopen =>
    rw [if_neg hopen] at h
    exact Extends.expect _ _ _ _ h

/-- The end of the text and a line end close an assignment alike. -/
theorem follows_endAssignment (dialect : Dialect) (inBlock : Bool) (b : β) :
    Follows ('\n' :: rest)
      (skipBlanks false >>= fun _ => dialect.endAssignment inBlock >>= fun _ => pure b) := by
  rw [← bind_assoc]
  refine Follows.map (fun c _ c' h => ?_) fun _ => b
  replace h : dialect.endAssignment inBlock (c.skipBlanks false) = .ok () c' := h
  show ∃ d, dialect.endAssignment inBlock ((c.extend ('\n' :: rest)).skipBlanks false) = _ ∧ _
  have hskip := Cursor.skipBlanks_extend false ('\n' :: rest) c
  by_cases hsettled : (c.skipBlanks false).Settled
  · rw [hsettled.skipBlanks_extend]
    exact ⟨_, extends_endAssignment hsettled.1 h, .refl _⟩
  · rw [← hskip]
    generalize c.skipBlanks false = e at h hsettled
    cases hstrict : dialect.strictNewlines with
    | false =>
      have hend : ∀ d, dialect.endAssignment inBlock d = .ok () d := by
        simp [endAssignment, hstrict]
      rw [hend] at h
      cases h
      exact ⟨_, hend _, .skipBlanks false _⟩
    | true =>
      by_cases hnil : e.rest = []
      · -- The line end that follows is taken in place of the end of the text.
        have hend : dialect.endAssignment inBlock e = .ok () e := by
          simp [endAssignment, hnil]
        rw [hend] at h
        cases h
        have hrest : (c'.extend ('\n' :: rest)).rest = '\n' :: rest := by simp [hnil]
        rw [Cursor.skipBlanks_of_not_blankAhead (by rw [hrest]; rfl)]
        refine ⟨(c'.extend ('\n' :: rest)).step, ?_, .step (by rw [hrest]; rfl)⟩
        simp [endAssignment, hstrict, hnil, expect, Cursor.hasText, Cursor.forward]
      · have hreturn : e.rest = ['\r'] :=
          Classical.byContradiction fun hreturn => hsettled ⟨hnil, hreturn⟩
        simp [endAssignment, hstrict, hreturn, expect, Cursor.hasText, fail] at h

theorem follows_endBlock (b : β) :
    Follows ('\n' :: rest) (skipBlanks false >>= fun _ => endBlock >>= fun _ => pure b) := by
  have hend : endBlock = ({ strictNewlines := true } : Dialect).endAssignment false := by
    funext c
    simp [endBlock, endAssignment]
  rw [hend]
  exact follows_endAssignment _ false b

/-! ### Blocks -/

theorem follows_propertyOf (dialect : Dialect) (key : Option Key) :
    Follows ('\n' :: rest) (dialect.propertyOf key : Reader (Option (Property α))) := by
  cases key with
  | none => exact (Extends.fail _).follows
  | some key =>
    have hend : ∀ property : Property α, Follows ('\n' :: rest) (skipBlanks false >>= fun _ =>
        dialect.endAssignment true >>= fun _ => pure (some property)) :=
      fun property => dialect.follows_endAssignment true (some property)
    cases key
    case position =>
      rw [propertyOf, value, bind_assoc]
      exact .assigned_bind .vec .vec fun _ => hend _
    case size =>
      rw [propertyOf, value, bind_assoc]
      exact .assigned_bind .vec .vec fun _ => hend _
    all_goals
      rw [propertyOf, value, bind_assoc]
      exact .assigned_bind .number .number fun _ => hend _

/-- Reads what follows the blanks before a property or a closing brace. -/
def propertyAhead (dialect : Dialect) : Reader (Option (Property α)) := do
  let ended ← atEnd
  require (!ended) (.expected "\x7d")
  let closed ← accept '}'
  dialect.propertyUnless closed

theorem propertyAhead_apply (dialect : Dialect) {c : Cursor} (h : c.rest ≠ []) :
    dialect.propertyAhead (α := α) c = (accept '}' >>= dialect.propertyUnless) c := by
  have hended : c.rest.isEmpty = false := by simpa using h
  show (require (!c.rest.isEmpty) (.expected "\x7d") >>= fun _ =>
    accept '}' >>= dialect.propertyUnless) c = _
  rw [hended]
  rfl

theorem propertyAhead_of_head?_eq (dialect : Dialect) {c : Cursor}
    (h : c.rest.head? = some '}') : dialect.propertyAhead (α := α) c = .ok none c.step := by
  rw [propertyAhead_apply dialect (by rintro hnil; simp [hnil] at h), bind_apply, accept, if_pos h]
  rfl

theorem propertyAhead_of_head?_ne (dialect : Dialect) {c : Cursor} (hne : c.rest ≠ [])
    (h : c.rest.head? ≠ some '}') : dialect.propertyAhead (α := α) c =
      (wordOf Key.spelling dialect.keys >>= dialect.propertyOf) c := by
  rw [propertyAhead_apply dialect hne, bind_apply, accept, if_neg h]
  rfl

theorem refuses_propertyAhead (dialect : Dialect) :
    Refuses (dialect.propertyAhead : Reader (Option (Property α))) := by
  intro c b c' h
  have hne : c.rest ≠ [] := by
    intro hnil
    simp [propertyAhead, bind_apply, atEnd, hnil, require, fail] at h
  refine ⟨hne, fun hreturn => ?_⟩
  rw [propertyAhead_of_head?_ne dialect hne (by simp [hreturn]), bind_apply,
    wordOf_key_of_head?_ne _ (by simp [hreturn])] at h
  cases h

/-- A block is closed by its brace only. -/
theorem head?_eq_of_propertyAhead_eq_none {dialect : Dialect} {c c' : Cursor}
    (h : dialect.propertyAhead (α := α) c = .ok none c') : c.rest.head? = some '}' := by
  refine Classical.byContradiction fun hhead => ?_
  rw [propertyAhead_of_head?_ne dialect (dialect.refuses_propertyAhead c _ c' h).1 hhead,
    bind_apply] at h
  split at h
  · next key d _ =>
    cases key with
    | none => cases h
    | some key =>
      rw [propertyOf, bind_apply] at h
      split at h
      · rw [bind_apply] at h
        split at h <;> cases h
      · cases h
  · cases h

theorem propertyAhead_extend_none {dialect : Dialect} {tail : List Char} {c c' : Cursor}
    (h : dialect.propertyAhead (α := α) c = .ok none c') :
    dialect.propertyAhead (α := α) (c.extend tail) = .ok none (c'.extend tail) := by
  have hhead := head?_eq_of_propertyAhead_eq_none h
  have hne : c.rest ≠ [] := (dialect.refuses_propertyAhead c _ c' h).1
  rw [propertyAhead_of_head?_eq dialect hhead] at h
  cases h
  have hhead' : (c.extend tail).rest.head? = some '}' := by
    rw [Cursor.extend_rest, List.head?_append, hhead]
    rfl
  rw [propertyAhead_of_head?_eq dialect hhead', Cursor.step_extend hne]

theorem follows_propertyAhead (dialect : Dialect) (rest : List Char) :
    Follows ('\n' :: rest) (dialect.propertyAhead : Reader (Option (Property α))) := by
  intro c b c' h
  have hne : c.rest ≠ [] := (dialect.refuses_propertyAhead c b c' h).1
  rw [propertyAhead_apply dialect hne] at h
  rw [propertyAhead_apply dialect (by simp)]
  refine Extends.bind_follows (.accept (by decide)) (fun closed => ?_) c b c' h
  unfold propertyUnless
  split
  · exact (Extends.pure _).follows
  · exact (Extends.wordOf isWordChar_of_mem_key _).bind_follows dialect.follows_propertyOf

/-- A block that is closed stays as it is. Only the blanks between its properties run on. -/
theorem extends_propertiesFrom (dialect : Dialect) (done : List (Property α)) :
    Extends ('\n' :: rest) (dialect.propertiesFrom done) := by
  intro c b c'' h
  -- Every property takes its key, so what is ahead gets shorter.
  induction hn : c.rest.length using Nat.strongRecOn generalizing done c with
  | ind n ih =>
    rw [propertiesFrom_eq] at h ⊢
    have hproperty : ∀ d : Cursor, dialect.property (α := α) d =
        dialect.propertyAhead (d.skipBlanks true) := fun _ => rfl
    cases hp : dialect.property (α := α) c with
    | error e c' =>
      rw [hp] at h
      cases h
    | ok property c' =>
      rw [hp] at h
      have hsettled := dialect.refuses_propertyAhead _ _ _ ((hproperty c).symm.trans hp)
      rw [hproperty, hsettled.skipBlanks_extend]
      cases property with
      | none =>
        rw [propertyAhead_extend_none ((hproperty c).symm.trans hp)]
        cases h
        rfl
      | some property =>
        obtain ⟨d, hd, hahead⟩ := dialect.follows_propertyAhead rest _ _ _
          ((hproperty c).symm.trans hp)
        rw [hd]
        have hlt : c'.rest.length < n := hn ▸ dialect.advances_property _ _ _ hp rfl
        simp only at h ⊢
        rw [dialect.skips_propertiesFrom _ d _ hahead]
        exact ih _ hlt _ _ h rfl

theorem follows_block (dialect : Dialect) :
    Follows ('\n' :: rest) (dialect.block : Reader (List (Property α))) := by
  refine .skipBlanks_bind ?_ (.bind (.expect (by decide) (by decide)) _)
  refine (Extends.expect _).bind_follows fun _ => ?_
  exact (dialect.extends_propertiesFrom []).bind_follows fun properties =>
    follows_endBlock properties

theorem follows_framed (dialect : Dialect) (make : String → List (Property α) → Directive α) :
    Follows ('\n' :: rest) (dialect.framed make) :=
  Extends.quoted.bind_follows fun name => dialect.follows_block.map (make name)

theorem refuses_framed (dialect : Dialect) (make : String → List (Property α) → Directive α) :
    Refuses (dialect.framed make) :=
  Refuses.quoted.bind _

/-! ### Directives -/

theorem extends_cell : Extends ('\n' :: rest) (cell α) :=
  .bind .integer fun _ => .bind .advance fun _ => .pure _

theorem refuses_cell : Refuses (cell α) :=
  Refuses.integer.bind _

theorem extends_compact : Extends ('\n' :: rest) (compact : Reader (Directive α)) := by
  refine .bind .integer fun number => .skipBlanks_bind ?_ (Refuses.vec.bind _)
  refine .bind .vec fun size => .skipBlanks_bind ?_ (refuses_cell.bind _)
  refine .bind extends_cell fun image => .skipBlanks_bind ?_ (refuses_cell.bind _)
  exact .bind extends_cell fun caption => .pure _

theorem extends_slide : Extends ('\n' :: rest) (slide : Reader (Directive α)) := by
  refine .skipBlanks_bind ?_ (Refuses.quoted.bind _)
  refine .bind .quoted fun name => .skipBlanks_bind ?_ (Refuses.number.bind _)
  exact .bind .number fun seconds => .pure _

theorem follows_screen (dialect : Dialect) (screenSet : Bool) :
    Follows ('\n' :: rest) (dialect.screen screenSet : Reader (Directive α)) := by
  refine (Extends.require _ _).bind_follows fun _ => .assigned_bind .vec .vec fun size => ?_
  cases !(Scalar.isZero size.x || Scalar.isZero size.y) with
  | false => exact fun _ _ _ h => nomatch h
  | true => exact dialect.follows_endAssignment false _

theorem follows_directory (dialect : Dialect) : Follows ('\n' :: rest) dialect.directory :=
  .assigned_bind .quoted .quoted fun path => dialect.follows_endAssignment false path

theorem refuses_image (dialect : Dialect) :
    Refuses (peek >>= dialect.imageFrom (α := α)) := by
  intro c b c' h
  replace h : dialect.imageFrom c.rest.head? c = .ok b c' := h
  unfold imageFrom at h
  split at h
  · exact dialect.refuses_framed .image c b c' h
  · exact Refuses.integer.bind _ c b c' h

theorem follows_image (dialect : Dialect) :
    Follows ('\n' :: rest) (peek >>= dialect.imageFrom (α := α)) := by
  intro c b c' h
  have hne : c.rest ≠ [] := (dialect.refuses_image c b c' h).1
  have hhead : (c.extend ('\n' :: rest)).rest.head? = c.rest.head? := by
    obtain ⟨x, xs, hrest⟩ := List.exists_cons_of_ne_nil hne
    simp [hrest]
  show ∃ d, dialect.imageFrom (c.extend ('\n' :: rest)).rest.head? _ = _ ∧ _
  rw [hhead]
  replace h : dialect.imageFrom c.rest.head? c = .ok b c' := h
  unfold imageFrom at h ⊢
  split at h
  · next hquote =>
    rw [if_pos hquote]
    exact dialect.follows_framed .image c b c' h
  · next hquote =>
    rw [if_neg hquote]
    exact extends_compact.follows c b c' h

theorem follows_directive (dialect : Dialect) (screenSet : Bool) (keyword : Keyword) :
    Follows ('\n' :: rest) (dialect.directive screenSet keyword : Reader (Directive α)) := by
  cases keyword with
  | screen => exact dialect.follows_screen screenSet
  | imageDir => exact dialect.follows_directory.map _
  | captionDir => exact dialect.follows_directory.map _
  | slide => exact (Extends.require _ _).bind_follows fun _ => extends_slide.follows
  | customImage =>
    exact (Extends.require _ _).bind_follows fun _ =>
      .skipBlanks_bind (dialect.follows_framed _) (dialect.refuses_framed _)
  | image =>
    exact (Extends.require _ _).bind_follows fun _ =>
      .skipBlanks_bind dialect.follows_image dialect.refuses_image

theorem follows_phraseOf (dialect : Dialect) (screenSet : Bool) (keyword : Option Keyword) :
    Follows ('\n' :: rest) (dialect.phraseOf screenSet keyword : Reader (Option (Phrase α))) := by
  cases keyword with
  | none =>
    have hskipped : Extends ('\n' :: rest) (skipped : Reader (Phrase α)) :=
      .bind .place fun _ => .bind .advance fun _ => .pure _
    exact hskipped.follows.map some
  | some keyword =>
    exact (dialect.follows_directive screenSet keyword).map fun d => some (Phrase.directive d)

/-- A phrase is read again where more lines follow. -/
theorem exists_phrase_extend {dialect : Dialect} {screenSet : Bool} {c c' : Cursor}
    {phrase : Option (Phrase α)} (rest : List Char) (hsettled : (c.skipBlanks true).Settled)
    (h : dialect.phrase screenSet c = .ok phrase c') :
    ∃ d, dialect.phrase screenSet (c.extend ('\n' :: rest)) = .ok phrase d ∧
      d.SameAhead (c'.extend ('\n' :: rest)) := by
  rw [phrase_eq, if_neg hsettled.1] at h
  rw [phrase_eq, hsettled.skipBlanks_extend, if_neg (by simp)]
  exact (Extends.wordOf isWordChar_of_mem_keyword _).bind_follows
    (dialect.follows_phraseOf screenSet) _ _ _ h

end Dialect

end Slideshow
