import Slideshow.Proofs.Description.Outcome

/-!
# The screen of a draft

Places are fractions of the screen. A directive that has been read fits the screen that it was read
for, and so the screen is set once, to a size that can be divided by, before anything is shown.

## Main definitions

* `Draft.Scaled`: the screen, once it is set, can be divided by.
* `Directive.Apt`, `Phrase.Apt`: what is certain of a directive, and of a phrase, after its reading.

## Main statements

* `Dialect.yields_phrase`: every phrase that is read is apt.
* `Draft.Scaled.take`: apt phrases keep the screen fit for division.
-/

namespace Slideshow

variable {α : Type} [Scalar α]

/-- The size has a width and a height. -/
def Vec.Divides (v : Vec α) : Prop :=
  Scalar.isZero v.x = false ∧ Scalar.isZero v.y = false

/-- The screen, once it is set, has a width and a height. -/
def Draft.Scaled (draft : Draft α) : Prop :=
  ∀ screen, draft.screen = some screen → screen.Divides

/-- What is certain of a directive that has been read: a screen is the first one and has a width and
a height, and whatever shows something has a screen to show it on. -/
def Directive.Apt (screenSet : Bool) : Directive α → Prop
  | .screen size => screenSet = false ∧ size.Divides
  | .imageDir _ | .captionDir _ => True
  | .slide .. | .compact .. | .image .. | .customImage .. => screenSet = true

def Phrase.Apt (screenSet : Bool) : Phrase α → Prop
  | .directive d => d.Apt screenSet
  | .skipped .. => True

namespace Reader

variable {β γ : Type}

/-- Every answer of the reader is in `P`. -/
def Yields (r : Reader β) (P : β → Prop) : Prop :=
  ∀ c b c', r c = .ok b c' → P b

theorem Yields.bind {r : Reader β} {f : β → Reader γ} {P : β → Prop} {Q : γ → Prop}
    (hr : Yields r P) (hf : ∀ b, P b → Yields (f b) Q) : Yields (r >>= f) Q := by
  intro c b' c'' h
  rw [bind_apply] at h
  cases hc : r c with
  | error e c' => rw [hc] at h; cases h
  | ok b c' =>
    rw [hc] at h
    exact hf b (hr c b c' hc) c' b' c'' h

/-- A sequence answers like its second part, whatever the first one answers. -/
theorem Yields.after {r : Reader β} {f : β → Reader γ} {Q : γ → Prop}
    (hf : ∀ b, Yields (f b) Q) : Yields (r >>= f) Q :=
  .bind (P := fun _ => True) (fun _ _ _ _ => trivial) fun b _ => hf b

theorem Yields.pure {b : β} {P : β → Prop} (h : P b) : Yields (pure b : Reader β) P := by
  intro c b' c' hc
  cases hc
  exact h

theorem Yields.require (holds : Bool) (fault : Fault) :
    Yields (require holds fault) fun _ => holds = true := by
  intro c b c' h
  cases holds with
  | true => rfl
  | false => cases h

end Reader

namespace Dialect

open Reader

theorem yields_screen (dialect : Dialect) (screenSet : Bool) :
    Yields (dialect.screen screenSet : Reader (Directive α)) (Directive.Apt screenSet) := by
  refine .bind (.require _ _) fun _ hunset => .after fun size => ?_
  refine .bind (.require _ _) fun _ hdivides => .after fun _ => .pure ?_
  exact ⟨by simpa using hunset, by simpa [Vec.Divides] using hdivides⟩

theorem yields_framed (dialect : Dialect) (make : String → List (Property α) → Directive α)
    {P : Directive α → Prop} (h : ∀ name block, P (make name block)) :
    Yields (dialect.framed make) P :=
  .after fun name => .after fun block => .pure (h name block)

theorem yields_imageFrom (dialect : Dialect) (next : Option Char) {screenSet : Bool}
    (h : screenSet = true) :
    Yields (dialect.imageFrom next : Reader (Directive α)) (Directive.Apt screenSet) := by
  unfold imageFrom
  split
  · exact dialect.yields_framed _ fun _ _ => h
  · exact .after fun _ => .after fun _ => .after fun _ => .after fun _ => .after fun _ =>
      .after fun _ => .after fun _ => .pure h

theorem yields_directive (dialect : Dialect) (screenSet : Bool) (keyword : Keyword) :
    Yields (dialect.directive screenSet keyword : Reader (Directive α))
      (Directive.Apt screenSet) := by
  cases keyword with
  | screen => exact dialect.yields_screen screenSet
  | imageDir | captionDir => exact .after fun _ => .pure trivial
  | slide =>
    exact .bind (.require _ _) fun _ h => .after fun _ => .after fun _ => .after fun _ =>
      .after fun _ => .pure h
  | customImage =>
    exact .bind (.require _ _) fun _ h => .after fun _ => dialect.yields_framed _ fun _ _ => h
  | image =>
    exact .bind (.require _ _) fun _ h => .after fun _ => .after fun next =>
      dialect.yields_imageFrom next h

/-- A phrase that has been read fits the screen that it was read for. -/
theorem yields_phrase (dialect : Dialect) (screenSet : Bool) :
    Yields (dialect.phrase screenSet : Reader (Option (Phrase α)))
      fun phrase => ∀ p ∈ phrase, p.Apt screenSet := by
  refine .after fun _ => .after fun ended => ?_
  unfold phraseUnless
  split
  · exact .pure fun p hp => by cases hp
  · refine .after fun keyword => ?_
    cases keyword with
    | none =>
      refine .bind (P := Phrase.Apt screenSet) ?_ fun phrase h => .pure fun p hp => ?_
      · exact .after fun _ => .after fun _ => .pure trivial
      · cases hp
        exact h
    | some keyword =>
      refine .bind (dialect.yields_directive screenSet keyword) fun d h => .pure fun p hp => ?_
      cases hp
      exact h

end Dialect

namespace Draft

theorem scaled_initial : Scaled (initial : Draft α) := by
  intro screen h
  cases h

/-- Only a directive that sets the screen changes it. -/
theorem screen_obey (draft : Draft α) (d : Directive α) :
    (draft.obey d).screen = match d with
      | .screen size => some size
      | _ => draft.screen := by
  cases d <;> rfl

theorem Scaled.obey {draft : Draft α} {d : Directive α} {screenSet : Bool} (h : draft.Scaled)
    (hd : d.Apt screenSet) : (draft.obey d).Scaled := by
  intro screen hscreen
  rw [screen_obey] at hscreen
  cases d with
  | screen size =>
    cases hscreen
    exact hd.2
  | _ => exact h screen hscreen

theorem Scaled.take {draft : Draft α} {phrase : Phrase α} {screenSet : Bool} (h : draft.Scaled)
    (hp : phrase.Apt screenSet) : (draft.take phrase).Scaled := by
  cases phrase with
  | directive d => exact h.obey hp
  | skipped => exact h

end Draft

end Slideshow
