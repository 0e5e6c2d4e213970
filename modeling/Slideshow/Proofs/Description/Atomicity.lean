import Mathlib.Logic.Relation
import Slideshow.Description.Interpreter
import Slideshow.Proofs.Description.Screen

/-!
# Directives take effect as a whole

An interpreter changes its draft step by step, and a step may fail. No directive stops between two
of its changes: what it needs of the screen is settled before the first of them.

## Main statements

* `Interpreter.perform_apply`: the changes of an apt directive all succeed and come to `Draft.obey`.
* `Interpreter.pass_apply`: a pass takes its phrase or leaves the draft alone.
* `Interpreter.run_apply`: interpreting a text and reading it lead to the same.
* `Interpreter.draft_of_interpret_error`: what breaks down leaves the draft as the last whole pass
  left it.
-/

namespace Slideshow.Interpreter

open Reader

variable {α : Type} [Scalar α]

/-- A screen with width and height can be divided by. -/
theorem normalize_apply (p : Progress α) {screen : Vec α} (v : Vec α)
    (hset : p.draft.screen = some screen) (hdivides : screen.Divides) :
    normalize v p = .ok (v.fractionOf screen) p := by
  have hsize : screenSize p = .ok screen p := by
    simp only [screenSize, bind_apply, current, hset]
    rfl
  simp only [normalize, bind_apply, hsize, hdivides.1, hdivides.2]
  rfl

/-- On such a screen an item finds its place. -/
theorem present_apply (c : Cursor) {draft : Draft α} {screen : Vec α} (item : Item α)
    (hset : draft.screen = some screen) (hdivides : screen.Divides) :
    present item ⟨c, draft⟩ =
      .ok () ⟨c, { draft with timeline := draft.timeline.add (item.onScreen screen) }⟩ := by
  have hnormalize : ∀ v : Vec α, normalize v ⟨c, draft⟩ = .ok (v.fractionOf screen) ⟨c, draft⟩ :=
    fun v => normalize_apply ⟨c, draft⟩ v hset hdivides
  simp only [present, bind_apply, hnormalize, change, Item.onScreen]

/-- The changes of an apt directive all succeed. -/
theorem perform_apply (c : Cursor) {draft : Draft α} {d : Directive α} (hscaled : draft.Scaled)
    (hd : d.Apt draft.screen.isSome) : perform d ⟨c, draft⟩ = .ok () ⟨c, draft.obey d⟩ := by
  -- A directive that shows nothing leaves the timeline alone, with a screen or without one.
  have hnone : draft.rawItems d = [] → draft.items d = [] := by
    intro h
    rw [Draft.items]
    split <;> simp [h]
  cases d with
  | screen | imageDir | captionDir =>
    simp only [perform, change, Draft.obey, hnone rfl, Timeline.addAll, List.foldl_nil]
  | slide name seconds =>
    obtain ⟨screen, hset⟩ := Option.isSome_iff_exists.mp hd
    simp only [perform, bind_apply, current, present_apply c _ hset (hscaled screen hset), change,
      Draft.obey, Draft.items, hset, Draft.rawItems, Timeline.addAll, List.map, List.foldl]
  | compact number size image caption =>
    obtain ⟨screen, hset⟩ := Option.isSome_iff_exists.mp hd
    have hdivides := hscaled screen hset
    simp only [perform, bind_apply, current, change]
    rw [present_apply c _ (by exact hset) hdivides]
    simp only []
    rw [present_apply c _ (by exact hset) hdivides]
    simp only [Draft.obey, Draft.items, hset, Draft.rawItems, Timeline.addAll, List.map, List.foldl]
  | image name block =>
    obtain ⟨screen, hset⟩ := Option.isSome_iff_exists.mp hd
    simp only [perform, bind_apply, current, present_apply c _ hset (hscaled screen hset),
      Draft.obey, Draft.items, hset, Draft.rawItems, Timeline.addAll, List.map, List.foldl]
  | customImage name block =>
    obtain ⟨screen, hset⟩ := Option.isSome_iff_exists.mp hd
    simp only [perform, present_apply c _ hset (hscaled screen hset),
      Draft.obey, Draft.items, hset, Draft.rawItems, Timeline.addAll, List.map, List.foldl]

/-- A pass takes its phrase as a whole or leaves the draft alone. -/
theorem pass_apply (dialect : Dialect) (c : Cursor) {draft : Draft α} (hscaled : draft.Scaled) :
    pass dialect ⟨c, draft⟩ = match dialect.phrase draft.screen.isSome c with
      | .error e c' => .error (.failure e) ⟨c', draft⟩
      | .ok none c' => .ok false ⟨c', draft⟩
      | .ok (some phrase) c' => .ok true ⟨c', draft.take phrase⟩ := by
  simp only [pass_eq, bind_apply, current, read]
  cases h : dialect.phrase (α := α) draft.screen.isSome c with
  | error e c' => rfl
  | ok phrase c' =>
    have hapt := dialect.yields_phrase _ _ _ _ h
    cases phrase with
    | none => rfl
    | some phrase =>
      cases phrase with
      | skipped => rfl
      | directive d =>
        have hd : d.Apt draft.screen.isSome := hapt _ rfl
        simp only [performPhrase, bind_apply, perform_apply c' hscaled hd]
        rfl

theorem run_eq (dialect : Dialect) (p : Progress α) :
    run dialect p = match pass dialect p with
      | .error e p' => .error e p'
      | .ok false p' => .ok () p'
      | .ok true p' => run dialect p' := by
  rw [run]
  split <;> simp only [*]

/-- Interpreting the rest of a text and reading it lead to the same. -/
theorem run_apply (dialect : Dialect) (draft : Draft α) (c : Cursor) (hscaled : draft.Scaled) :
    run dialect ⟨c, draft⟩ =
      let r := Reading.onward dialect draft c
      let p : Progress α := ⟨r.cursor, draft.takeAll r.phrases⟩
      match r.failure with
      | some e => .error (.failure e) p
      | none => .ok () p := by
  induction draft, c using Reading.induction (α := α) dialect with
  | step draft c ih =>
    rw [run_eq, pass_apply dialect c hscaled, Reading.onward_eq]
    cases h : dialect.phrase (α := α) draft.screen.isSome c with
    | error e c' => rfl
    | ok phrase c' =>
      cases phrase with
      | none => rfl
      | some phrase =>
        have hapt := dialect.yields_phrase _ _ _ _ h phrase rfl
        have hrun := ih phrase c' h (hscaled.take hapt)
        show run dialect ⟨c', draft.take phrase⟩ = _
        rw [hrun]
        simp only [Draft.takeAll_cons]

/-- Interpreting a text and reading it lead to the same. -/
theorem interpret_eq (dialect : Dialect) {draft : Draft α} (hscaled : draft.Scaled)
    (text : String) :
    interpret dialect draft text =
      let r := Reading.resume dialect draft text
      let p : Progress α := ⟨r.cursor, draft.takeAll r.phrases⟩
      match r.failure with
      | some e => .error (.failure e) p
      | none => .ok () p :=
  run_apply dialect draft _ hscaled

/-- One pass over a directive or a character. -/
def Passes (dialect : Dialect) (p p' : Progress α) : Prop :=
  pass dialect p = .ok true p'

/-- After a pass the screen can still be divided by. -/
theorem Passes.scaled {dialect : Dialect} {p p' : Progress α} (h : Passes dialect p p')
    (hscaled : p.draft.Scaled) : p'.draft.Scaled := by
  have hpass := pass_apply dialect p.cursor hscaled
  cases hphrase : dialect.phrase (α := α) p.draft.screen.isSome p.cursor with
  | error e c => rw [hphrase] at hpass; cases hpass.symm.trans h
  | ok phrase c =>
    rw [hphrase] at hpass
    cases phrase with
    | none => cases hpass.symm.trans h
    | some phrase =>
      cases hpass.symm.trans h
      exact hscaled.take (dialect.yields_phrase _ _ _ _ hphrase phrase rfl)

theorem scaled_of_passes {dialect : Dialect} {p p' : Progress α}
    (h : Relation.ReflTransGen (Passes dialect) p p') (hscaled : p.draft.Scaled) :
    p'.draft.Scaled := by
  induction h with
  | refl => exact hscaled
  | tail _ hpass ih => exact hpass.scaled ih

/-- Passes leave the outcome open to what follows. -/
theorem run_of_passes {dialect : Dialect} {p p' : Progress α}
    (h : Relation.ReflTransGen (Passes dialect) p p') : run dialect p = run dialect p' := by
  induction h with
  | refl => rfl
  | tail _ hpass ih =>
    rw [ih, run_eq]
    simp only [show pass dialect _ = .ok true _ from hpass]

/-- The pass that breaks down starts where whole passes lead to, and leaves the draft as it finds
it. -/
theorem exists_passes_of_run_error (dialect : Dialect) {draft : Draft α} {c : Cursor}
    (hscaled : draft.Scaled) {e : Breakdown} {p' : Progress α}
    (h : run dialect ⟨c, draft⟩ = .error e p') :
    ∃ p, Relation.ReflTransGen (Passes dialect) ⟨c, draft⟩ p ∧ pass dialect p = .error e p' ∧
      p'.draft = p.draft := by
  induction draft, c using Reading.induction (α := α) dialect with
  | step draft c ih =>
    rw [run_eq] at h
    have hpass := pass_apply dialect c hscaled
    cases hphrase : dialect.phrase (α := α) draft.screen.isSome c with
    | error f c' =>
      rw [hphrase] at hpass
      rw [hpass] at h
      cases h
      exact ⟨⟨c, draft⟩, .refl, hpass, rfl⟩
    | ok phrase c' =>
      rw [hphrase] at hpass
      cases phrase with
      | none => rw [hpass] at h; cases h
      | some phrase =>
        rw [hpass] at h
        have hapt := dialect.yields_phrase _ _ _ _ hphrase phrase rfl
        replace h : run dialect ⟨c', draft.take phrase⟩ = .error e p' := h
        obtain ⟨p, hreach, hp⟩ := ih phrase c' hphrase (hscaled.take hapt) h
        exact ⟨p, .head hpass hreach, hp⟩

/-- What breaks down leaves the draft as it was at the start of the pass that broke down: the
phrases before it are in effect, and nothing else is. -/
theorem draft_of_interpret_error (dialect : Dialect) (text : String) {e : Breakdown}
    {p' : Progress α} (h : interpret dialect .initial text = .error e p') :
    (∃ p, Relation.ReflTransGen (Passes dialect) ⟨.ofText text, .initial⟩ p ∧
      pass dialect p = .error e p' ∧ p'.draft = p.draft) ∧
    p'.draft = (Reading.ofText dialect text).draft ∧
    ∃ f, e = .failure f ∧ (Reading.ofText (α := α) dialect text).failure = some f := by
  refine ⟨exists_passes_of_run_error dialect Draft.scaled_initial h, ?_⟩
  rw [interpret_eq dialect Draft.scaled_initial] at h
  simp only at h
  split at h
  · next f hf =>
    cases h
    exact ⟨rfl, f, rfl, hf⟩
  · cases h

/-- A compact image whose caption has no row adds neither of its items. -/
theorem draft_of_interpret_error_compact :
    ∃ p' : Progress Rat,
      interpret { strictNewlines := true } .initial "screen = 4, 2\nimage 7 2, 2 1a 3" =
        .error (.failure (.grammar .endOfText 2 18)) p' ∧
      p'.draft.screen = some ⟨4, 2⟩ ∧ p'.draft.timeline = .empty ∧ p'.draft.index = 1 := by
  have hfailure : (Reading.resume { strictNewlines := true } (.initial : Draft Rat)
      "screen = 4, 2\nimage 7 2, 2 1a 3").failure = some (.grammar .endOfText 2 18) := by
    decide +kernel
  have h := interpret_eq (α := Rat) { strictNewlines := true } Draft.scaled_initial
    "screen = 4, 2\nimage 7 2, 2 1a 3"
  simp only [hfailure] at h
  refine ⟨_, h, ?_⟩
  rw [(draft_of_interpret_error { strictNewlines := true } _ h).2.1]
  decide +kernel

end Slideshow.Interpreter
