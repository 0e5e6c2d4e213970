import Slideshow.Description.Reading

/-!
# Interpreters of directives

A reading keeps its phrases and settles at the end what they amount to. An interpreter holds one
draft and changes it in place, one assignment after the other, while it reads the text. Whatever
stops it leaves the draft as it stands at that moment.

## Main definitions

* `Breakdown`: what can stop an interpreter.
* `Progress`: the place in the text, and the draft as it stands.
* `Interpreter`: computations on a progress.
* `Interpreter.perform`: the changes that a directive makes, one after the other.
* `Interpreter.directive`, `Interpreter.pass`, `Interpreter.run`: what follows a keyword, one pass
  over a directive or a character, and all passes over a text.

## Design notes

Placing an item divides by the screen, and asks for it again each time. Either can fail between
two changes of the draft; that neither does is a theorem about runs, not part of the definitions.
-/

namespace Slideshow

/-- What stops an interpreter: the failure of a reader, or a division by a screen without width or
height. -/
inductive Breakdown where
  | failure (f : Failure)
  | division
  deriving DecidableEq, Repr

/-- How far an interpreter has come: the place in the text, and the draft as it stands. -/
structure Progress (α : Type) where
  cursor : Cursor
  draft : Draft α
  deriving DecidableEq, Repr

/-- A computation that reads on, changes the draft, and answers or breaks down. -/
abbrev Interpreter (α β : Type) := EStateM Breakdown (Progress α) β

instance decidableEqResult {ε σ β : Type} [DecidableEq ε] [DecidableEq σ] [DecidableEq β] :
    DecidableEq (EStateM.Result ε σ β)
  | .ok b s, .ok b' s' =>
    decidable_of_iff (b = b' ∧ s = s') (by simp only [EStateM.Result.ok.injEq])
  | .error e s, .error e' s' =>
    decidable_of_iff (e = e' ∧ s = s') (by simp only [EStateM.Result.error.injEq])
  | .ok .., .error .. => .isFalse (by simp only [reduceCtorEq, not_false_eq_true])
  | .error .., .ok .. => .isFalse (by simp only [reduceCtorEq, not_false_eq_true])

namespace Interpreter

open Reader

variable {α β γ : Type}

/-- Reads, and leaves the draft alone. -/
def read (r : Reader β) : Interpreter α β := fun p =>
  match r p.cursor with
  | .ok b c => .ok b { p with cursor := c }
  | .error e c => .error (.failure e) { p with cursor := c }

def current : Interpreter α (Draft α) := fun p => .ok p.draft p

def change (f : Draft α → Draft α) : Interpreter α Unit := fun p =>
  .ok () { p with draft := f p.draft }

/-- Breaks down for a division by zero. -/
def breakDown : Interpreter α β := fun p => .error .division p

/-- The size of the screen, which has to be set. -/
def screenSize : Interpreter α (Vec α) := do
  match (← current).screen with
  | some screen => pure screen
  | none => read (fail .screenUnset)

/-! ### Laws of interpreters -/

theorem bind_apply (m : Interpreter α β) (f : β → Interpreter α γ) (p : Progress α) :
    (m >>= f) p = match m p with
      | .ok b p' => f b p'
      | .error e p' => .error e p' := by
  show EStateM.bind m f p = _
  unfold EStateM.bind
  cases m p <;> rfl

theorem read_pure (b : β) : (read (pure b) : Interpreter α β) = pure b := rfl

theorem read_bind (r : Reader β) (f : β → Reader γ) :
    (read (r >>= f) : Interpreter α γ) = read r >>= fun b => read (f b) := by
  funext p
  rw [bind_apply, read, Reader.bind_apply, read]
  cases r p.cursor <;> rfl

/-- Asking for the size of the screen is a look at the draft and a reader that may fail. -/
theorem screenSize_bind (m : Interpreter α β) :
    (screenSize >>= fun _ => m) = current >>= fun draft =>
      read (require draft.screen.isSome .screenUnset) >>= fun _ => m := by
  funext p
  rw [screenSize, bind_assoc, bind_apply, bind_apply]
  cases h : p.draft.screen with
  | none => simp [current, h, require, read, bind_apply, fail]
  | some screen => simp [current, h, require, read_pure]

/-- Readers see no draft, so it does not matter when it is looked at. -/
theorem read_current (r : Reader β) (f : β → Draft α → Interpreter α γ) :
    (read r >>= fun b => current >>= f b) = current >>= fun draft =>
      read r >>= fun b => f b draft := by
  funext p
  simp only [bind_apply, read, current]
  cases r p.cursor <;> rfl

/-- A computation that succeeds leaves the cursor where it was. -/
def Still (m : Interpreter α β) : Prop :=
  ∀ p b p', m p = .ok b p' → p'.cursor = p.cursor

theorem Still.bind {m : Interpreter α β} {f : β → Interpreter α γ} (hm : Still m)
    (hf : ∀ b, Still (f b)) : Still (m >>= f) := by
  intro p b p' h
  rw [bind_apply] at h
  cases hp : m p with
  | error e q => rw [hp] at h; cases h
  | ok a q =>
    rw [hp] at h
    exact (hf a q b p' h).trans (hm p a q hp)

theorem Still.pure (b : β) : Still (pure b : Interpreter α β) := by
  intro p b' p' h
  cases h
  rfl

theorem Still.current : Still (current : Interpreter α (Draft α)) := by
  intro p b p' h
  cases h
  rfl

theorem Still.change (f : Draft α → Draft α) : Still (change f) := by
  intro p b p' h
  cases h
  rfl

theorem Still.screenSize : Still (screenSize : Interpreter α (Vec α)) := by
  refine .bind .current fun draft => ?_
  split
  · exact .pure _
  · intro p b p' h
    cases h

/-! ### Directives -/

variable [Scalar α]

def normalize (v : Vec α) : Interpreter α (Vec α) := do
  let screen ← screenSize
  if Scalar.isZero screen.x || Scalar.isZero screen.y then breakDown
  else return v.fractionOf screen

/-- Adds an item whose place is given in units of the screen. -/
def present (item : Item α) : Interpreter α Unit := do
  let position ← normalize item.position
  let size ← normalize item.size
  change fun draft => { draft with
    timeline := draft.timeline.add { item with position := position, size := size } }

/-- The changes that a directive makes. A compact image counts itself before it shows anything. -/
def perform : Directive α → Interpreter α Unit
  | .screen size => change fun draft => { draft with screen := some size }
  | .imageDir path => change fun draft => { draft with imageDir := path }
  | .captionDir path => change fun draft => { draft with captionDir := path }
  | .slide name seconds => do
    let draft ← current
    present (draft.slideItem name seconds)
    change fun draft => { draft with
      nextStart := draft.nextStart + (seconds + Draft.slidePad + Draft.pause) }
  | .compact number size image caption => do
    let draft ← current
    change fun draft => { draft with index := draft.index + 1 }
    present (draft.compactItem (draft.compactSource number) size image)
    present (draft.compactItem (draft.captionSource number) ⟨1, 1⟩ caption)
    change fun draft => { draft with
      nextStart := draft.nextStart + (Draft.compactDuration + Draft.pause) }
  | .image name block => do
    let draft ← current
    present (Property.itemOf (draft.imageDir ++ name) block)
  | .customImage name block => present (Property.itemOf name block)

def screen (dialect : Dialect) : Interpreter α Unit := do
  let draft ← current
  read (require draft.screen.isNone .screenSet)
  let size ← read (assigned vec)
  read (require (!(Scalar.isZero size.x || Scalar.isZero size.y)) .screenZero)
  read (dialect.endAssignment false)
  perform (.screen size)

def directory (dialect : Dialect) (make : String → Directive α) : Interpreter α Unit := do
  let path ← read (assigned quoted)
  read (dialect.endAssignment false)
  perform (make path)

def slide : Interpreter α Unit := do
  let _ ← screenSize
  read (skipBlanks false)
  let name ← read quoted
  read (skipBlanks false)
  let seconds ← read number
  perform (.slide name seconds)

def compact : Interpreter α Unit := do
  let number ← read (integer α)
  read (skipBlanks false)
  let size ← read vec
  read (skipBlanks false)
  let image ← read (Dialect.cell α)
  read (skipBlanks false)
  let caption ← read (Dialect.cell α)
  perform (.compact number size image caption)

def framed (dialect : Dialect) (make : String → List (Property α) → Directive α) :
    Interpreter α Unit := do
  let name ← read quoted
  let block ← read dialect.block
  perform (make name block)

/-- Shows an image, which has a block if its name is quoted. -/
def imageFrom (dialect : Dialect) (next : Option Char) : Interpreter α Unit :=
  if next = some '"' then framed dialect .image else compact

def image (dialect : Dialect) : Interpreter α Unit := do
  let _ ← screenSize
  read (skipBlanks false)
  let next ← read peek
  imageFrom dialect next

def customImage (dialect : Dialect) : Interpreter α Unit := do
  let _ ← screenSize
  read (skipBlanks false)
  framed dialect .customImage

def directive (dialect : Dialect) : Keyword → Interpreter α Unit
  | .screen => screen dialect
  | .imageDir => directory dialect .imageDir
  | .captionDir => directory dialect .captionDir
  | .slide => slide
  | .customImage => customImage dialect
  | .image => image dialect

/-- Does what a keyword says, or takes a character where there is none. -/
def directiveOrCharacter (dialect : Dialect) : Option Keyword → Interpreter α Unit
  | some keyword => directive dialect keyword
  | none => do let _ ← read advance

/-- One pass over a description: a directive or a character. Says whether there was one. -/
def pass (dialect : Dialect) : Interpreter α Bool := do
  read (skipBlanks true)
  if ← read atEnd then return false
  let keyword ← read (wordOf Keyword.spelling dialect.keywords)
  directiveOrCharacter dialect keyword
  return true

/-! ### Reading first, changing afterwards -/

theorem framed_eq (dialect : Dialect) (make : String → List (Property α) → Directive α) :
    framed dialect make = read (dialect.framed make) >>= perform := by
  simp only [framed, Dialect.framed, read_bind, read_pure, bind_assoc, pure_bind]

theorem imageFrom_eq (dialect : Dialect) (next : Option Char) :
    (imageFrom dialect next : Interpreter α Unit) = read (dialect.imageFrom next) >>= perform := by
  unfold imageFrom Dialect.imageFrom
  split
  · exact framed_eq dialect .image
  · simp only [compact, Dialect.compact, read_bind, read_pure, bind_assoc, pure_bind]

/-- No directive changes anything before it has been read to its end. -/
theorem directive_eq (dialect : Dialect) (keyword : Keyword) :
    (directive dialect keyword : Interpreter α Unit) = current >>= fun draft =>
      read (dialect.directive draft.screen.isSome keyword) >>= perform := by
  cases keyword with
  | screen =>
    simp only [directive, screen, Dialect.directive, Dialect.screen, read_bind, read_pure,
      bind_assoc, pure_bind, Option.not_isSome]
  | imageDir | captionDir =>
    simp only [directive, directory, Dialect.directive, Dialect.directory, read_bind, read_pure,
      bind_assoc, pure_bind]
    rfl
  | slide =>
    simp only [directive, slide, Dialect.directive, Dialect.slide, read_bind, read_pure,
      bind_assoc, pure_bind, screenSize_bind]
  | customImage =>
    simp only [directive, customImage, framed_eq, Dialect.directive, read_bind, bind_assoc,
      screenSize_bind]
  | image =>
    simp only [directive, image, imageFrom_eq, Dialect.directive, read_bind, bind_assoc,
      screenSize_bind]

/-- The changes that a phrase makes, and whether there was one. -/
def performPhrase : Option (Phrase α) → Interpreter α Bool
  | some (.directive d) => do
    perform d
    return true
  | some (.skipped ..) => return true
  | none => return false

theorem directiveOrCharacter_eq (dialect : Dialect) (keyword : Option Keyword) :
    (directiveOrCharacter dialect keyword >>= fun _ => pure true : Interpreter α Bool) =
      current >>= fun draft =>
        read (dialect.phraseOf draft.screen.isSome keyword) >>= performPhrase := by
  cases keyword with
  | some keyword =>
    simp only [directiveOrCharacter, directive_eq, Dialect.phraseOf, read_bind, read_pure,
      bind_assoc, pure_bind, performPhrase]
  | none =>
    simp only [directiveOrCharacter, Dialect.phraseOf, Dialect.skipped, read_bind, read_pure,
      bind_assoc, pure_bind, performPhrase]
    rfl

theorem pass_eq (dialect : Dialect) :
    (pass dialect : Interpreter α Bool) = current >>= fun draft =>
      read (dialect.phrase draft.screen.isSome) >>= performPhrase := by
  simp only [Dialect.phrase, read_bind, bind_assoc, pass]
  rw [← read_current]
  congr 1
  funext _
  rw [← read_current]
  congr 1
  funext ended
  cases ended with
  | true => rfl
  | false =>
    simp only [Dialect.phraseUnless, Bool.false_eq_true, if_false, read_bind, bind_assoc,
      directiveOrCharacter_eq, read_current]

/-! ### Passes end -/

theorem Still.normalize (v : Vec α) : Still (normalize v) := by
  refine .bind .screenSize fun screen => ?_
  split
  · intro p b p' h
    cases h
  · exact .pure _

theorem Still.present (item : Item α) : Still (present item) :=
  .bind (.normalize _) fun _ => .bind (.normalize _) fun _ => .change _

theorem Still.perform (d : Directive α) : Still (perform d) := by
  cases d with
  | screen size => exact .change fun draft => { draft with screen := some size }
  | imageDir path => exact .change fun draft => { draft with imageDir := path }
  | captionDir path => exact .change fun draft => { draft with captionDir := path }
  | slide => exact .bind .current fun _ => .bind (.present _) fun _ => .change _
  | compact =>
    exact .bind .current fun _ => .bind (.change _) fun _ => .bind (.present _) fun _ =>
      .bind (.present _) fun _ => .change _
  | image => exact .bind .current fun _ => .present _
  | customImage => exact .present _

/-- A pass over a directive or a character takes something of the text. -/
theorem length_lt_of_pass {dialect : Dialect} {p p' : Progress α}
    (h : pass dialect p = .ok true p') : p'.cursor.rest.length < p.cursor.rest.length := by
  rw [pass_eq, bind_apply] at h
  simp only [current, bind_apply, read] at h
  cases hphrase : dialect.phrase (α := α) p.draft.screen.isSome p.cursor with
  | error e c => rw [hphrase] at h; cases h
  | ok phrase c =>
    rw [hphrase] at h
    cases phrase with
    | none => cases h
    | some phrase =>
      have hlt : c.rest.length < p.cursor.rest.length :=
        dialect.advances_phrase _ _ _ _ hphrase rfl
      have hstill : p'.cursor = c := by
        cases phrase with
        | directive d =>
          exact Still.bind (Still.perform d) (fun _ => .pure true) ⟨c, p.draft⟩ true p' h
        | skipped => cases h; rfl
      rw [hstill]
      exact hlt

/-- All passes over a description, up to its end or to a breakdown. -/
def run (dialect : Dialect) : Interpreter α Unit := fun p =>
  match _h : pass dialect p with
  | .error e p' => .error e p'
  | .ok false p' => .ok () p'
  | .ok true p' => run dialect p'
termination_by p => p.cursor.rest.length
decreasing_by exact length_lt_of_pass _h

/-- The interpretation of a text, which goes on from a draft. -/
def interpret (dialect : Dialect) (draft : Draft α) (text : String) :
    EStateM.Result Breakdown (Progress α) Unit :=
  run dialect ⟨.ofText text, draft⟩

end Interpreter

end Slideshow
