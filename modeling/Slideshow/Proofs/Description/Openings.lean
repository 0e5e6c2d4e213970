import Slideshow.Proofs.Description.Screen

/-!
# Openings

A directive with a block is read in two parts: what leads up to the brace that opens the block, and
the block with the end of its last line. The first part of a phrase is its opening. Whatever has no
block is read as a whole there, and no property is.

## Main definitions

* `Opening`: what the first part of a phrase comes to.
* `Dialect.opening`, `Dialect.completion`: the readers of the two parts.

## Main statements

* `Dialect.phrase_eq_opening`: one after the other they read the phrase.
* `Dialect.yields_opening`: what is read as a whole has no block.
-/

namespace Slideshow

variable {α : Type}

/-- What the first part of a phrase comes to: the end of the text, a phrase without a block, or the
inside of a block, with the directive that its properties will belong to. -/
inductive Opening (α : Type) where
  | ended
  | phrase (phrase : Phrase α)
  | block (make : List (Property α) → Directive α)

/-- A phrase that was read as a whole has no block, and one with a block gets the properties that
are read for it. -/
def Opening.Apt : Opening α → Prop
  | .phrase (.directive d) => d.block? = none
  | .block make => ∀ block, (make block).block? = some block
  | .ended | .phrase (.skipped ..) => True

namespace Dialect

open Reader

variable [Scalar α]

/-- Reads a name and the brace that opens a block. -/
def framedOpening (make : String → List (Property α) → Directive α) : Reader (Opening α) := do
  let name ← quoted
  skipBlanks true
  expect "\x7b"
  return .block (make name)

def imageOpening (next : Option Char) : Reader (Opening α) :=
  if next = some '"' then framedOpening .image
  else do return .phrase (.directive (← compact))

/-- Reads what follows a keyword, up to the opening brace of a block. -/
def directiveOpening (dialect : Dialect) (screenSet : Bool) : Keyword → Reader (Opening α)
  | .customImage => do
    require screenSet .screenUnset
    skipBlanks false
    framedOpening .customImage
  | .image => do
    require screenSet .screenUnset
    skipBlanks false
    let next ← peek
    imageOpening next
  | keyword => do return .phrase (.directive (← dialect.directive screenSet keyword))

def openingOf (dialect : Dialect) (screenSet : Bool) : Option Keyword → Reader (Opening α)
  | none => do return .phrase (← skipped)
  | some keyword => dialect.directiveOpening screenSet keyword

def openingUnless (dialect : Dialect) (screenSet ended : Bool) : Reader (Opening α) :=
  if ended then pure .ended
  else wordOf Keyword.spelling dialect.keywords >>= dialect.openingOf screenSet

/-- Reads the next phrase of a description, a phrase with a block only up to its opening brace. -/
def opening (dialect : Dialect) (screenSet : Bool) : Reader (Opening α) := do
  skipBlanks true
  let ended ← atEnd
  dialect.openingUnless screenSet ended

/-- Reads the rest of a phrase, which is a block and the end of its last line, or nothing. -/
def completion (dialect : Dialect) : Opening α → Reader (Option (Phrase α))
  | .ended => pure none
  | .phrase phrase => pure (some phrase)
  | .block make => do
    let block ← dialect.propertiesFrom []
    skipBlanks false
    endBlock
    return some (.directive (make block))

/-! ### The two parts of a phrase -/

variable (dialect : Dialect)

theorem framed_eq_opening (make : String → List (Property α) → Directive α) :
    (do return some (.directive (← dialect.framed make))) =
      framedOpening make >>= dialect.completion := by
  simp only [framed, block, framedOpening, completion, bind_assoc, pure_bind]

theorem imageFrom_eq_opening (next : Option Char) :
    (do return some (.directive (← dialect.imageFrom next)) : Reader (Option (Phrase α))) =
      imageOpening next >>= dialect.completion := by
  unfold imageFrom imageOpening
  split
  · exact dialect.framed_eq_opening _
  · simp only [completion, bind_assoc, pure_bind]

theorem directive_eq_opening (screenSet : Bool) (keyword : Keyword) :
    (do return some (.directive (← dialect.directive screenSet keyword)) :
      Reader (Option (Phrase α))) =
      dialect.directiveOpening screenSet keyword >>= dialect.completion := by
  cases keyword with
  | customImage =>
    simp only [directive, directiveOpening, bind_assoc, ← framed_eq_opening]
  | image => simp only [directive, directiveOpening, bind_assoc, ← imageFrom_eq_opening]
  | screen | imageDir | captionDir | slide =>
    simp only [directiveOpening, completion, bind_assoc, pure_bind]

theorem phraseOf_eq_opening (screenSet : Bool) (keyword : Option Keyword) :
    (dialect.phraseOf screenSet keyword : Reader (Option (Phrase α))) =
      dialect.openingOf screenSet keyword >>= dialect.completion := by
  cases keyword with
  | none => simp only [phraseOf, openingOf, completion, bind_assoc, pure_bind]
  | some keyword => exact dialect.directive_eq_opening screenSet keyword

/-- A phrase is read in two parts. -/
theorem phrase_eq_opening (screenSet : Bool) :
    (dialect.phrase screenSet : Reader (Option (Phrase α))) =
      dialect.opening screenSet >>= dialect.completion := by
  have hphrase : ∀ ended, (dialect.phraseUnless screenSet ended : Reader (Option (Phrase α))) =
      dialect.openingUnless screenSet ended >>= dialect.completion := by
    intro ended
    cases ended with
    | true => rfl
    | false =>
      simp only [phraseUnless, openingUnless, Bool.false_eq_true, if_false, bind_assoc,
        funext (dialect.phraseOf_eq_opening screenSet)]
  simp only [phrase, opening, bind_assoc, hphrase]

/-! ### What the first part comes to -/

omit [Scalar α] in
theorem forward_framedOpening (make : String → List (Property α) → Directive α) :
    Forward (framedOpening make) :=
  .bind .quoted fun _ => .bind (.skipBlanks _) fun _ => .bind (.expect _) fun _ => .pure _

theorem forward_imageOpening (next : Option Char) :
    Forward (imageOpening next : Reader (Opening α)) := by
  unfold imageOpening
  split
  · exact forward_framedOpening _
  · exact .bind forward_compact fun _ => .pure _

theorem forward_directiveOpening (screenSet : Bool) (keyword : Keyword) :
    Forward (dialect.directiveOpening screenSet keyword : Reader (Opening α)) := by
  cases keyword with
  | customImage =>
    exact .bind (.require _ _) fun _ => .bind (.skipBlanks _) fun _ => forward_framedOpening _
  | image =>
    exact .bind (.require _ _) fun _ => .bind (.skipBlanks _) fun _ => .bind .peek fun _ =>
      forward_imageOpening _
  | screen | imageDir | captionDir | slide =>
    exact .bind (dialect.forward_directive screenSet _) fun _ => .pure _

theorem forward_opening (screenSet : Bool) :
    Forward (dialect.opening screenSet : Reader (Opening α)) := by
  refine .bind (.skipBlanks _) fun _ => .bind .atEnd fun ended => ?_
  unfold openingUnless
  split
  · exact .pure _
  · refine .bind (.wordOf _ _) fun keyword => ?_
    cases keyword with
    | none => exact .bind forward_skipped fun _ => .pure _
    | some keyword => exact dialect.forward_directiveOpening screenSet keyword

omit [Scalar α] in
theorem yields_framedOpening {make : String → List (Property α) → Directive α}
    (h : ∀ name block, (make name block).block? = some block) :
    Yields (framedOpening make) Opening.Apt :=
  .after fun name => .after fun _ => .after fun _ => .pure (h name)

omit [Scalar α] in
theorem yields_whole {r : Reader (Directive α)} (h : Yields r fun d => d.block? = none) :
    Yields (do return .phrase (.directive (← r))) Opening.Apt :=
  .bind h fun _ hd => .pure hd

theorem yields_imageOpening (next : Option Char) :
    Yields (imageOpening next : Reader (Opening α)) Opening.Apt := by
  unfold imageOpening
  split
  · exact yields_framedOpening fun _ _ => rfl
  · exact yields_whole <| .after fun _ => .after fun _ => .after fun _ => .after fun _ =>
      .after fun _ => .after fun _ => .after fun _ => .pure rfl

theorem yields_directiveOpening (screenSet : Bool) (keyword : Keyword) :
    Yields (dialect.directiveOpening screenSet keyword : Reader (Opening α)) Opening.Apt := by
  cases keyword with
  | customImage => exact .after fun _ => .after fun _ => yields_framedOpening fun _ _ => rfl
  | image => exact .after fun _ => .after fun _ => .after fun next => yields_imageOpening next
  | screen =>
    exact yields_whole <| .after fun _ => .after fun _ => .after fun _ => .after fun _ => .pure rfl
  | imageDir | captionDir => exact yields_whole <| .after fun _ => .pure rfl
  | slide =>
    exact yields_whole <| .after fun _ => .after fun _ => .after fun _ => .after fun _ =>
      .after fun _ => .pure rfl

/-- A phrase that is read as a whole has no block. -/
theorem yields_opening (screenSet : Bool) :
    Yields (dialect.opening screenSet : Reader (Opening α)) Opening.Apt := by
  refine .after fun _ => .after fun ended => ?_
  unfold openingUnless
  split
  · exact .pure trivial
  · refine .after fun keyword => ?_
    cases keyword with
    | none =>
      refine .bind (P := fun phrase => Opening.Apt (.phrase phrase)) ?_ fun _ h => .pure h
      exact .after fun _ => .after fun _ => .pure trivial
    | some keyword => exact dialect.yields_directiveOpening screenSet keyword

end Dialect

end Slideshow
