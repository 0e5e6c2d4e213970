import Slideshow.Proofs.Description.Atomicity

/-!
# The moments of a run

An interpreter changes its draft stroke by stroke. Between two strokes lies a moment of its run: the
draft as it stands, with the strokes that the last directive has still to make. Reading is no
stroke, since it leaves the draft alone.

## Main definitions

* `Stroke`: a single change of a draft, with `Stroke.perform` and the strokes of a directive.
* `Moment`: a moment of a run, with what comes of it.
* `Moment.Step`, `Moment.Reaches`, `Moment.Stops`: how a run goes on, where it comes to with which
  strokes behind it, and where it stops.

## Main statements

* `Interpreter.perform_eq`: the changes of a directive are its strokes.
* `Moment.outcome_of_reaches`: the run goes through all moments that are reached.
* `Moment.exists_stops`: and it stops at one of them, with its outcome.
-/

namespace Slideshow

/-- A single change of a draft. Placing an item asks for the screen, and divides by it. -/
inductive Stroke (α : Type) where
  | setScreen (size : Vec α)
  | setImageDir (path : String)
  | setCaptionDir (path : String)
  | countImage
  | place (item : Item α)
  | postpone (time : α)
  deriving DecidableEq, Repr

variable {α : Type} [Scalar α]

open Interpreter in
def Stroke.perform : Stroke α → Interpreter α Unit
  | .setScreen size => change fun draft => { draft with screen := some size }
  | .setImageDir path => change fun draft => { draft with imageDir := path }
  | .setCaptionDir path => change fun draft => { draft with captionDir := path }
  | .countImage => change fun draft => { draft with index := draft.index + 1 }
  | .place item => present item
  | .postpone time => change fun draft => { draft with nextStart := draft.nextStart + time }

/-- Makes strokes one after the other. -/
def Stroke.performAll : List (Stroke α) → Interpreter α Unit
  | [] => pure ()
  | s :: strokes => do
    s.perform
    performAll strokes

/-- The strokes of a directive, in their order. -/
def Draft.strokes (draft : Draft α) : Directive α → List (Stroke α)
  | .screen size => [.setScreen size]
  | .imageDir path => [.setImageDir path]
  | .captionDir path => [.setCaptionDir path]
  | .slide name seconds =>
    [.place (draft.slideItem name seconds), .postpone (seconds + slidePad + pause)]
  | .compact number size image caption =>
    [.countImage, .place (draft.compactItem (draft.compactSource number) size image),
      .place (draft.compactItem (draft.captionSource number) ⟨1, 1⟩ caption),
      .postpone (compactDuration + pause)]
  | .image name block => [.place (Property.itemOf (draft.imageDir ++ name) block)]
  | .customImage name block => [.place (Property.itemOf name block)]

namespace Interpreter

theorem Still.stroke (s : Stroke α) : Still s.perform := by
  cases s with
  | place item => exact .present item
  | setScreen | setImageDir | setCaptionDir | countImage | postpone =>
    intro p b p' h
    cases h
    rfl

/-- A directive makes its strokes one after the other. -/
theorem perform_eq (d : Directive α) :
    perform d = current >>= fun draft => Stroke.performAll (draft.strokes d) := by
  cases d with
  | screen | imageDir | captionDir => rfl
  | slide | compact | image | customImage =>
    simp only [perform, Draft.strokes, Stroke.performAll, Stroke.perform, bind_pure_unit] <;> rfl

/-- A run reads a phrase, makes the strokes of a directive, and goes on. -/
theorem run_eq_phrase (dialect : Dialect) (p : Progress α) :
    run dialect p = match dialect.phrase p.draft.screen.isSome p.cursor with
      | .error e c => .error (.failure e) ⟨c, p.draft⟩
      | .ok none c => .ok () ⟨c, p.draft⟩
      | .ok (some (.skipped ..)) c => run dialect ⟨c, p.draft⟩
      | .ok (some (.directive d)) c =>
        (Stroke.performAll (p.draft.strokes d) >>= fun _ => run dialect) ⟨c, p.draft⟩ := by
  rw [run_eq]
  simp only [pass_eq, bind_apply, current, read]
  cases h : dialect.phrase (α := α) p.draft.screen.isSome p.cursor with
  | error e c => rfl
  | ok phrase c =>
    cases phrase with
    | none => rfl
    | some phrase =>
      cases phrase with
      | skipped => rfl
      | directive d =>
        simp only [performPhrase, perform_eq, bind_apply, current]
        cases Stroke.performAll (p.draft.strokes d) ⟨c, p.draft⟩ <;> rfl

end Interpreter

/-- A moment of a run: the strokes that the last directive has still to make, the place in the text,
and the draft as it stands. -/
structure Moment (α : Type) where
  pending : List (Stroke α)
  progress : Progress α

namespace Moment

open Interpreter

def draft (m : Moment α) : Draft α := m.progress.draft

def cursor (m : Moment α) : Cursor := m.progress.cursor

/-- Before a text is read. -/
def ofText (text : String) : Moment α :=
  ⟨[], ⟨.ofText text, .initial⟩⟩

/-- What comes of a moment: its strokes are made, and the run goes on. -/
def outcome (dialect : Dialect) (m : Moment α) : EStateM.Result Breakdown (Progress α) Unit :=
  (Stroke.performAll m.pending >>= fun _ => run dialect) m.progress

/-- From one moment to the next, with the stroke that is made between them if one is. -/
inductive Step (dialect : Dialect) : Moment α → Option (Stroke α) → Moment α → Prop
  | read {p : Progress α} {d : Directive α} {c : Cursor}
      (h : dialect.phrase p.draft.screen.isSome p.cursor = .ok (some (.directive d)) c) :
      Step dialect ⟨[], p⟩ none ⟨p.draft.strokes d, ⟨c, p.draft⟩⟩
  | skip {p : Progress α} {x : Char} {line column : Nat} {c : Cursor}
      (h : dialect.phrase (α := α) p.draft.screen.isSome p.cursor =
        .ok (some (.skipped x line column)) c) :
      Step dialect ⟨[], p⟩ none ⟨[], ⟨c, p.draft⟩⟩
  | stroke {s : Stroke α} {strokes : List (Stroke α)} {p p' : Progress α}
      (h : s.perform p = .ok () p') : Step dialect ⟨s :: strokes, p⟩ (some s) ⟨strokes, p'⟩

/-- A moment is reached from another one, with the strokes of `history` between them. -/
inductive Reaches (dialect : Dialect) (m : Moment α) : List (Stroke α) → Moment α → Prop
  | refl : Reaches dialect m [] m
  | tail {history : List (Stroke α)} {made : Option (Stroke α)} {m' m'' : Moment α}
      (h : Reaches dialect m history m') (hstep : Step dialect m' made m'') :
      Reaches dialect m (history ++ made.toList) m''

/-- A run stops at a moment, with a result: the text ends, the next phrase cannot be read, or the
next stroke cannot be made. -/
inductive Stops (dialect : Dialect) :
    Moment α → EStateM.Result Breakdown (Progress α) Unit → Prop
  | ended {p : Progress α} {c : Cursor}
      (h : dialect.phrase (α := α) p.draft.screen.isSome p.cursor = .ok none c) :
      Stops dialect ⟨[], p⟩ (.ok () ⟨c, p.draft⟩)
  | unread {p : Progress α} {e : Failure} {c : Cursor}
      (h : dialect.phrase (α := α) p.draft.screen.isSome p.cursor = .error e c) :
      Stops dialect ⟨[], p⟩ (.error (.failure e) ⟨c, p.draft⟩)
  | broken {s : Stroke α} {strokes : List (Stroke α)} {p p' : Progress α} {e : Breakdown}
      (h : s.perform p = .error e p') : Stops dialect ⟨s :: strokes, p⟩ (.error e p')

variable {dialect : Dialect} {m m' m'' : Moment α} {history history' : List (Stroke α)}
  {made : Option (Stroke α)} {r : EStateM.Result Breakdown (Progress α) Unit}

theorem Reaches.trans (h : Reaches dialect m history m') (h' : Reaches dialect m' history' m'') :
    Reaches dialect m (history ++ history') m'' := by
  induction h' with
  | refl => rwa [List.append_nil]
  | tail _ hstep ih =>
    rw [← List.append_assoc]
    exact ih.tail hstep

theorem Reaches.head (hstep : Step dialect m made m') (h : Reaches dialect m' history m'') :
    Reaches dialect m (made.toList ++ history) m'' :=
  (Reaches.refl.tail hstep).trans h

theorem outcome_nil (dialect : Dialect) (p : Progress α) :
    outcome dialect ⟨[], p⟩ = run dialect p :=
  rfl

theorem outcome_cons (dialect : Dialect) (s : Stroke α) (strokes : List (Stroke α))
    (p : Progress α) :
    outcome dialect ⟨s :: strokes, p⟩ = match s.perform p with
      | .ok _ p' => outcome dialect ⟨strokes, p'⟩
      | .error e p' => .error e p' := by
  simp only [outcome, Stroke.performAll, bind_assoc]
  rw [bind_apply]
  cases s.perform p <;> rfl

/-- A step leaves the outcome open to what follows. -/
theorem outcome_of_step (h : Step dialect m made m') : m.outcome dialect = m'.outcome dialect := by
  cases h with
  | read h => rw [outcome_nil, run_eq_phrase, h]; rfl
  | skip h => rw [outcome_nil, run_eq_phrase, h]; rfl
  | stroke h => rw [outcome_cons, h]

/-- A run goes through all moments that are reached. -/
theorem outcome_of_reaches (h : Reaches dialect m history m') :
    m.outcome dialect = m'.outcome dialect := by
  induction h with
  | refl => rfl
  | tail _ hstep ih => exact ih.trans (outcome_of_step hstep)

theorem outcome_of_stops (h : Stops dialect m r) : m.outcome dialect = r := by
  cases h with
  | ended h => rw [outcome_nil, run_eq_phrase, h]
  | unread h => rw [outcome_nil, run_eq_phrase, h]
  | broken h => rw [outcome_cons, h]

/-- At every moment the run goes on or stops. -/
theorem stops_or_step (dialect : Dialect) (m : Moment α) :
    (∃ r, Stops dialect m r) ∨ ∃ made m', Step dialect m made m' := by
  obtain ⟨pending, p⟩ := m
  cases pending with
  | nil =>
    cases h : dialect.phrase (α := α) p.draft.screen.isSome p.cursor with
    | error e c => exact .inl ⟨_, .unread h⟩
    | ok phrase c =>
      cases phrase with
      | none => exact .inl ⟨_, .ended h⟩
      | some phrase =>
        cases phrase with
        | skipped => exact .inr ⟨_, _, .skip h⟩
        | directive => exact .inr ⟨_, _, .read h⟩
  | cons s strokes =>
    cases h : s.perform p with
    | error e p' => exact .inl ⟨_, .broken h⟩
    | ok _ p' => exact .inr ⟨_, _, .stroke h⟩

/-- A step takes something of the text, or leaves it and makes one of the strokes. -/
theorem length_of_step (h : Step dialect m made m') :
    m'.cursor.rest.length < m.cursor.rest.length ∨
      m'.cursor = m.cursor ∧ m'.pending.length < m.pending.length := by
  cases h with
  | read h | skip h => exact .inl (dialect.advances_phrase _ _ _ _ h rfl)
  | stroke h => exact .inr ⟨Still.stroke _ _ _ _ h, Nat.lt_succ_self _⟩

/-- A run stops at a moment that is reached, with its outcome. -/
theorem exists_stops (dialect : Dialect) (m : Moment α) :
    ∃ history last, Reaches dialect m history last ∧ Stops dialect last (m.outcome dialect) := by
  obtain ⟨r, hstops⟩ | ⟨made, m', hstep⟩ := stops_or_step dialect m
  · exact ⟨[], m, .refl, outcome_of_stops hstops ▸ hstops⟩
  · obtain ⟨history, last, hreach, hstops⟩ := exists_stops dialect m'
    exact ⟨_, last, .head hstep hreach, outcome_of_step hstep ▸ hstops⟩
termination_by (m.cursor.rest.length, m.pending.length)
decreasing_by
  obtain hlt | ⟨hcursor, hlt⟩ := length_of_step hstep
  · exact .left _ _ hlt
  · rw [hcursor]
    exact .right _ hlt

/-- So the moments that are reached before a text is read are those of its interpretation. -/
theorem outcome_ofText (dialect : Dialect) (text : String) :
    (ofText text : Moment α).outcome dialect = interpret dialect .initial text :=
  rfl

end Moment

end Slideshow
