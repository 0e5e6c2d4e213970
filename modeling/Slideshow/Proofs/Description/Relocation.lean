import Slideshow.Proofs.Cursor.Relocation
import Slideshow.Proofs.Description.Outcome
import Slideshow.Proofs.Description.Phrases

/-!
# Descriptions behind others

The readers of directives move with their text. A phrase that names its place names the new one, and
what the text describes is the same.

## Main statements

* `Dialect.relocates_directive`: a directive is the same wherever it stands.
* `Dialect.phrase_behind`: so is a phrase, but for the place of a skipped character.
* `Reading.conclude_behind`: the same draft, and the same failure at its new place.
-/

namespace Slideshow

open Reader

variable {α : Type} [Scalar α] {o : Offset}

namespace Dialect

theorem relocates_endAssignment (dialect : Dialect) (inBlock : Bool) :
    Relocates o (dialect.endAssignment inBlock) := by
  refine .of_forward (dialect.forward_endAssignment inBlock) fun c hc => ?_
  unfold endAssignment
  rw [Cursor.behind_rest]
  split
  · rfl
  · exact (Relocates.expect _).apply c hc

theorem relocates_value (key : Key) : Relocates o (value key : Reader (Property α)) := by
  cases key
  case position => exact .bind (.assigned .vec) fun _ => .pure _
  case size => exact .bind (.assigned .vec) fun _ => .pure _
  all_goals exact .bind (.assigned .number) fun _ => .pure _

theorem relocates_property (dialect : Dialect) :
    Relocates o (dialect.property : Reader (Option (Property α))) := by
  refine .bind (.skipBlanks _) fun _ => .bind .atEnd fun _ => .bind (.require _ _) fun _ =>
    .bind (.accept _) fun closed => ?_
  unfold propertyUnless
  split
  · exact .pure _
  · refine .bind (.wordOf _ _) fun key => ?_
    cases key with
    | none => exact .fail _
    | some key =>
      exact .bind (relocates_value key) fun _ => .bind (dialect.relocates_endAssignment _) fun _ =>
        .pure _

theorem relocates_propertiesFrom (dialect : Dialect) (done : List (Property α)) :
    Relocates o (dialect.propertiesFrom done) := by
  refine .of_forward (dialect.forward_propertiesFrom done) fun c hc => ?_
  induction hn : c.rest.length using Nat.strongRecOn generalizing done c with
  | ind n ih =>
    have hproperty := dialect.relocates_property (α := α) (o := o)
    have hline := hproperty.line_pos c hc
    rw [propertiesFrom_eq, propertiesFrom_eq, hproperty.apply c hc]
    cases hp : dialect.property (α := α) c with
    | error e c' => rfl
    | ok property c' =>
      rw [hp] at hline
      cases property with
      | none => rfl
      | some property =>
        have hlt : c'.rest.length < n := hn ▸ dialect.advances_property _ _ _ hp rfl
        exact ih _ hlt _ _ hline rfl

theorem relocates_block (dialect : Dialect) :
    Relocates o (dialect.block : Reader (List (Property α))) := by
  refine .bind (.skipBlanks _) fun _ => .bind (.expect _) fun _ =>
    .bind (dialect.relocates_propertiesFrom _) fun _ => .bind (.skipBlanks _) fun _ =>
      .bind (.of_forward forward_endBlock fun c hc => ?_) fun _ => .pure _
  unfold endBlock
  rw [Cursor.behind_rest]
  split
  · rfl
  · exact (Relocates.expect _).apply c hc

theorem relocates_framed (dialect : Dialect) (make : String → List (Property α) → Directive α) :
    Relocates o (dialect.framed make) :=
  .bind .quoted fun _ => .bind dialect.relocates_block fun _ => .pure _

theorem relocates_cell : Relocates o (cell α) :=
  .bind .integer fun _ => .bind .advance fun _ => .pure _

theorem relocates_imageFrom (dialect : Dialect) (next : Option Char) :
    Relocates o (dialect.imageFrom next : Reader (Directive α)) := by
  unfold imageFrom
  split
  · exact dialect.relocates_framed _
  · exact .bind .integer fun _ => .bind (.skipBlanks _) fun _ => .bind .vec fun _ =>
      .bind (.skipBlanks _) fun _ => .bind relocates_cell fun _ => .bind (.skipBlanks _) fun _ =>
        .bind relocates_cell fun _ => .pure _

theorem relocates_directory (dialect : Dialect) : Relocates o dialect.directory :=
  .bind (.assigned .quoted) fun _ => .bind (dialect.relocates_endAssignment _) fun _ => .pure _

/-- A directive is the same wherever it stands. -/
theorem relocates_directive (dialect : Dialect) (screenSet : Bool) (keyword : Keyword) :
    Relocates o (dialect.directive screenSet keyword : Reader (Directive α)) := by
  cases keyword with
  | screen =>
    exact .bind (.require _ _) fun _ => .bind (.assigned .vec) fun _ =>
      .bind (.require _ _) fun _ => .bind (dialect.relocates_endAssignment _) fun _ => .pure _
  | imageDir => exact .bind dialect.relocates_directory fun _ => .pure _
  | captionDir => exact .bind dialect.relocates_directory fun _ => .pure _
  | slide =>
    exact .bind (.require _ _) fun _ => .bind (.skipBlanks _) fun _ => .bind .quoted fun _ =>
      .bind (.skipBlanks _) fun _ => .bind .number fun _ => .pure _
  | customImage =>
    exact .bind (.require _ _) fun _ => .bind (.skipBlanks _) fun _ => dialect.relocates_framed _
  | image =>
    exact .bind (.require _ _) fun _ => .bind (.skipBlanks _) fun _ => .bind .peek fun _ =>
      dialect.relocates_imageFrom _

end Dialect

/-- The same phrase in the longer text. -/
def Phrase.behind (o : Offset) : Phrase α → Phrase α
  | .directive d => .directive d
  | .skipped x line column => .skipped x (line + o.line) (o.moveColumn line column)

theorem Draft.take_behind (draft : Draft α) (phrase : Phrase α) :
    draft.take (phrase.behind o) = draft.take phrase := by
  cases phrase <;> rfl

namespace Dialect

theorem skipped_behind {β : Type} {c : Cursor} (hc : 1 ≤ c.line) :
    (skipped : Reader (Phrase β)) (c.behind o) = match skipped c with
      | .ok phrase c' => .ok (phrase.behind o) (c'.behind o)
      | .error e c' => .error (e.behind o) (c'.behind o) := by
  cases hrest : c.rest with
  | nil =>
    have hfail : ∀ d : Cursor, d.rest = [] → (skipped : Reader (Phrase β)) d =
        .error (.grammar .endOfText d.line d.column) d := by
      intro d hd
      simp only [skipped, bind_apply, place, advance, hd, fail]
    rw [hfail c hrest, hfail (c.behind o) hrest]
    rfl
  | cons x rest =>
    have hrest' : (c.behind o).rest = x :: rest := hrest
    rw [skipped_apply hrest, skipped_apply hrest', Cursor.step_behind hc]
    rfl

/-- A phrase is the same wherever it stands, but for the place of a skipped character. -/
theorem phrase_behind (dialect : Dialect) (screenSet : Bool) {c : Cursor} (hc : 1 ≤ c.line) :
    dialect.phrase (α := α) screenSet (c.behind o) =
      match dialect.phrase (α := α) screenSet c with
      | .ok phrase c' => .ok (phrase.map (·.behind o)) (c'.behind o)
      | .error e c' => .error (e.behind o) (c'.behind o) := by
  have hskip := (Relocates.skipBlanks (o := o) true).line_pos c hc
  replace hskip : 1 ≤ (c.skipBlanks true).line := hskip
  rw [phrase_eq, phrase_eq, Cursor.skipBlanks_behind hc, Cursor.behind_rest]
  generalize c.skipBlanks true = d at hskip
  by_cases hnil : d.rest = []
  · rw [if_pos hnil, if_pos hnil]
    rfl
  · have hword := Relocates.wordOf (o := o) Keyword.spelling dialect.keywords
    have hline := hword.line_pos d hskip
    rw [if_neg hnil, if_neg hnil, bind_apply, bind_apply, hword.apply d hskip]
    cases hw : wordOf Keyword.spelling dialect.keywords d with
    | error e d' => rfl
    | ok keyword d' =>
      rw [hw] at hline
      replace hline : 1 ≤ d'.line := hline
      cases keyword with
      | none =>
        simp only [resultBehind, phraseOf, bind_apply, skipped_behind hline]
        cases (skipped : Reader (Phrase α)) d' <;> rfl
      | some keyword =>
        have hdirective := dialect.relocates_directive (α := α) (o := o) screenSet keyword
        simp only [resultBehind, phraseOf, bind_apply, hdirective.apply d' hline]
        cases dialect.directive (α := α) screenSet keyword d' <;> rfl

/-- The line stays positive. -/
theorem line_pos_of_phrase {dialect : Dialect} {screenSet : Bool} {c c' : Cursor}
    {phrase : Option (Phrase α)} (hc : 1 ≤ c.line)
    (h : dialect.phrase screenSet c = .ok phrase c') : 1 ≤ c'.line := by
  obtain ⟨n, hn⟩ := dialect.forward_phrase (α := α) screenSet c
  rw [h] at hn
  rw [show c' = c.forward n from hn]
  exact Cursor.line_forward_pos hc n

end Dialect

namespace Reading

/-- A text describes the same wherever it stands, and fails at the same place of it. -/
theorem conclude_behind (dialect : Dialect) (draft : Draft α) (c : Cursor) (hc : 1 ≤ c.line) :
    conclude dialect draft (c.behind o) =
      ((conclude dialect draft c).1, (conclude dialect draft c).2.map (·.behind o)) := by
  induction draft, c using induction (α := α) dialect with
  | step draft c ih =>
    rw [conclude_eq, conclude_eq, dialect.phrase_behind _ hc]
    cases h : dialect.phrase (α := α) draft.screen.isSome c with
    | error e c' => rfl
    | ok phrase c' =>
      cases phrase with
      | none => rfl
      | some phrase =>
        simp only [Option.map_some, Draft.take_behind]
        exact ih phrase c' h (Dialect.line_pos_of_phrase hc h)

end Reading

end Slideshow
