import Slideshow.Description.Reading
import Slideshow.Proofs.Description.Phrases

/-!
# Outcomes of readings

A reading that goes on from a draft leaves a draft and perhaps a failure. Both are settled phrase by
phrase.

## Main definitions

* `Reading.conclude`: the draft and the failure that the rest of a text leads to.

## Main statements

* `Reading.conclude_eq`: the outcome by way of the next phrase.
* `Draft.declared_begins_takeAll`: phrases only add items behind those that are there.
* `Reading.induction`: what holds of a place if it holds behind the next phrase holds everywhere.
-/

namespace Slideshow

variable {α : Type} [Scalar α]

namespace Draft

/-- Only a phrase that sets the screen changes whether it is set. -/
theorem isSome_screen_take (draft : Draft α) (phrase : Phrase α) :
    (draft.take phrase).screen.isSome = (draft.screen.isSome || phrase.setsScreen) := by
  cases phrase with
  | skipped => simp [take, Phrase.setsScreen]
  | directive d => cases d <;> simp [take, obey, Phrase.setsScreen]

theorem takeAll_cons (draft : Draft α) (phrase : Phrase α) (phrases : List (Phrase α)) :
    draft.takeAll (phrase :: phrases) = (draft.take phrase).takeAll phrases :=
  rfl

theorem takeAll_append (draft : Draft α) (first second : List (Phrase α)) :
    draft.takeAll (first ++ second) = (draft.takeAll first).takeAll second :=
  List.foldl_append

theorem timeline_obey (draft : Draft α) (d : Directive α) :
    (draft.obey d).timeline = draft.timeline.addAll (draft.items d) := by
  cases d <;> rfl

/-- What a phrase adds is declared after what was there. -/
theorem declared_begins_take (draft : Draft α) (phrase : Phrase α) :
    draft.timeline.declared <+: (draft.take phrase).timeline.declared := by
  cases phrase with
  | skipped => exact List.prefix_rfl
  | directive d =>
    rw [take, timeline_obey, Timeline.declared_addAll]
    exact List.prefix_append ..

theorem declared_begins_takeAll (draft : Draft α) (phrases : List (Phrase α)) :
    draft.timeline.declared <+: (draft.takeAll phrases).timeline.declared := by
  induction phrases generalizing draft with
  | nil => exact List.prefix_rfl
  | cons phrase phrases ih => exact (draft.declared_begins_take phrase).trans (ih _)

end Draft

namespace Reading

/-- Reading goes by the next phrase. -/
theorem readFrom_eq (dialect : Dialect) (done : List (Phrase α)) (screenSet : Bool) (c : Cursor) :
    readFrom dialect done screenSet c = match dialect.phrase screenSet c with
      | .error e c' => ⟨done.reverse, some e, c'⟩
      | .ok none c' => ⟨done.reverse, none, c'⟩
      | .ok (some phrase) c' =>
        readFrom dialect (phrase :: done) (screenSet || phrase.setsScreen) c' := by
  rw [readFrom]
  split <;> simp only [*]

/-- What was read before has no influence on the rest. -/
theorem readFrom_eq_append (dialect : Dialect) (done : List (Phrase α)) (screenSet : Bool)
    (c : Cursor) :
    readFrom dialect done screenSet c =
      let r : Reading α := readFrom dialect [] screenSet c
      { r with phrases := done.reverse ++ r.phrases } := by
  induction hn : c.rest.length using Nat.strongRecOn generalizing done screenSet c with
  | _ n ih =>
    rw [readFrom_eq, readFrom_eq dialect []]
    cases h : dialect.phrase (α := α) screenSet c with
    | error e c' => simp
    | ok phrase c' =>
      cases phrase with
      | none => simp
      | some phrase =>
        have hlt : c'.rest.length < n := hn ▸ dialect.advances_phrase _ _ _ _ h rfl
        simp only
        rw [ih _ hlt _ _ _ rfl, ih _ hlt [phrase] _ _ rfl]
        simp

/-- What holds of a draft and a place if it holds behind the next phrase holds of all. -/
theorem induction {motive : Draft α → Cursor → Prop} (dialect : Dialect)
    (step : ∀ draft c, (∀ phrase c', dialect.phrase draft.screen.isSome c = .ok (some phrase) c' →
      motive (draft.take phrase) c') → motive draft c) (draft : Draft α) (c : Cursor) :
    motive draft c := by
  induction hn : c.rest.length using Nat.strongRecOn generalizing draft c with
  | _ n ih =>
    refine step draft c fun phrase c' h => ih _ ?_ _ _ rfl
    exact hn ▸ dialect.advances_phrase _ _ _ _ h rfl

/-- The reading that goes on from a draft at a place. -/
def onward (dialect : Dialect) (draft : Draft α) (c : Cursor) : Reading α :=
  readFrom dialect [] draft.screen.isSome c

theorem onward_eq (dialect : Dialect) (draft : Draft α) (c : Cursor) :
    onward dialect draft c = match dialect.phrase draft.screen.isSome c with
      | .error e c' => ⟨[], some e, c'⟩
      | .ok none c' => ⟨[], none, c'⟩
      | .ok (some phrase) c' =>
        let r := onward dialect (draft.take phrase) c'
        { r with phrases := phrase :: r.phrases } := by
  rw [onward, readFrom_eq]
  cases dialect.phrase (α := α) draft.screen.isSome c with
  | error e c' => rfl
  | ok phrase c' =>
    cases phrase with
    | none => rfl
    | some phrase =>
      simp only
      rw [readFrom_eq_append, ← Draft.isSome_screen_take]
      rfl

theorem onward_of_error {dialect : Dialect} {draft : Draft α} {c c' : Cursor} {e : Failure}
    (h : dialect.phrase (α := α) draft.screen.isSome c = .error e c') :
    onward dialect draft c = ⟨[], some e, c'⟩ := by
  rw [onward_eq, h]

theorem onward_of_none {dialect : Dialect} {draft : Draft α} {c c' : Cursor}
    (h : dialect.phrase (α := α) draft.screen.isSome c = .ok none c') :
    onward dialect draft c = ⟨[], none, c'⟩ := by
  rw [onward_eq, h]

theorem onward_of_some {dialect : Dialect} {draft : Draft α} {c c' : Cursor} {phrase : Phrase α}
    (h : dialect.phrase draft.screen.isSome c = .ok (some phrase) c') :
    onward dialect draft c =
      let r := onward dialect (draft.take phrase) c'
      { r with phrases := phrase :: r.phrases } := by
  rw [onward_eq, h]

/-- The draft and the failure that the rest of a text leads to. -/
def conclude (dialect : Dialect) (draft : Draft α) (c : Cursor) : Draft α × Option Failure :=
  let r := onward dialect draft c
  (draft.takeAll r.phrases, r.failure)

theorem conclude_eq (dialect : Dialect) (draft : Draft α) (c : Cursor) :
    conclude dialect draft c = match dialect.phrase draft.screen.isSome c with
      | .error e _ => (draft, some e)
      | .ok none _ => (draft, none)
      | .ok (some phrase) c' => conclude dialect (draft.take phrase) c' := by
  rw [conclude, onward_eq]
  cases dialect.phrase (α := α) draft.screen.isSome c with
  | error e c' => rfl
  | ok phrase c' => cases phrase <;> rfl

theorem parse_eq_conclude (dialect : Dialect) (text : String) :
    parse dialect text = match conclude (α := α) dialect .initial (.ofText text) with
      | (draft, none) => .ok draft
      | (_, some e) => .error e := by
  have hconclude : conclude (α := α) dialect .initial (.ofText text) =
      ((ofText dialect text).draft, (ofText dialect text).failure) :=
    rfl
  rw [hconclude, parse]
  cases (ofText (α := α) dialect text).failure <;> rfl

/-- Blanks before the rest of a text do not matter. -/
theorem conclude_of_sameAhead (dialect : Dialect) (draft : Draft α) {c d : Cursor}
    (h : c.SameAhead d) : conclude dialect draft c = conclude dialect draft d := by
  rw [conclude_eq, conclude_eq, dialect.skips_phrase _ c d h]

theorem conclude_nil (dialect : Dialect) (draft : Draft α) {c : Cursor} (h : c.rest = []) :
    conclude dialect draft c = (draft, none) := by
  have hskip : c.skipBlanks true = c := Cursor.skipBlanks_of_not_blankAhead (by rw [h]; rfl)
  have hend : dialect.phrase (α := α) draft.screen.isSome c = .ok none c := by
    rw [Dialect.phrase_eq, hskip, if_pos h]
  rw [conclude_eq, hend]

end Reading

end Slideshow
