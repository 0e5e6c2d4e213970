import Slideshow.Cursor.Value
import Slideshow.Description.Directive

/-!
# Readers of directives

What the description language looks like: a reader for each directive, for blocks and their
properties, and for one phrase of a description.

## Main definitions

* `Dialect`: whether assignments end their lines, and which words are looked for.
* `Dialect.block`: the properties of a block, up to and with its closing brace.
* `Dialect.directive`: what follows a keyword.
* `Dialect.phrase`: the next phrase of a description.

## Design notes

A directive that shows something is refused directly behind its keyword while the screen is not
set, and a second screen just so; hence the readers know whether the screen is set, and nothing
else of what came before.
-/

namespace Slideshow

/-- What can differ between readers of descriptions. -/
structure Dialect where
  /-- Whether a line ends after every assignment. -/
  strictNewlines : Bool
  /-- The keywords, in the order in which they are tried. -/
  keywords : List Keyword := Keyword.all
  /-- The keys of a block, in the order in which they are tried. -/
  keys : List Key := Key.all
  deriving DecidableEq, Repr

namespace Dialect

open Reader

variable {α : Type} [Scalar α]

/-- Takes the line end that has to follow an assignment. The end of the text does as well, and
within a block the brace that closes it. -/
def endAssignment (dialect : Dialect) (inBlock : Bool) : Reader Unit := fun c =>
  if !dialect.strictNewlines || c.rest.isEmpty || (inBlock && c.rest.head? == some '}') then
    .ok () c
  else expect "\n" c

def value : Key → Reader (Property α)
  | .position => do return .position (← assigned vec)
  | .size => do return .size (← assigned vec)
  | .start => do return .start (← assigned number)
  | .duration => do return .duration (← assigned number)
  | .fadeIn => do return .fadeIn (← assigned number)
  | .fadeOut => do return .fadeOut (← assigned number)

/-- Reads what follows a key, if there is one. -/
def propertyOf (dialect : Dialect) : Option Key → Reader (Option (Property α))
  | none => fail .noProperty
  | some key => do
    let property ← value key
    dialect.endAssignment true
    return some property

/-- Reads what follows the blanks in a block: a property, unless the block is closed. -/
def propertyUnless (dialect : Dialect) (closed : Bool) : Reader (Option (Property α)) :=
  if closed then pure none
  else wordOf Key.spelling dialect.keys >>= dialect.propertyOf

/-- Reads the next property of a block, or the brace that closes it. -/
def property (dialect : Dialect) : Reader (Option (Property α)) := do
  skipBlanks true
  let ended ← atEnd
  require (!ended) (.expected "\x7d")
  let closed ← accept '}'
  dialect.propertyUnless closed

/-- The words of the language are not empty. -/
theorem key_ne_nil (key : Key) : key.spelling.toList ≠ [] := by
  cases key <;> decide

theorem keyword_ne_nil (keyword : Keyword) : keyword.spelling.toList ≠ [] := by
  cases keyword <;> decide

theorem forward_endAssignment (dialect : Dialect) (inBlock : Bool) :
    Forward (dialect.endAssignment inBlock) := by
  intro c
  unfold endAssignment
  split
  · exact ⟨0, rfl⟩
  · exact Forward.expect _ c

theorem forward_value (key : Key) : Forward (value key : Reader (Property α)) := by
  cases key
  case position => exact .bind (.assigned .vec) fun _ => .pure _
  case size => exact .bind (.assigned .vec) fun _ => .pure _
  all_goals exact .bind (.assigned .number) fun _ => .pure _

theorem forward_propertyOf (dialect : Dialect) (key : Option Key) :
    Forward (dialect.propertyOf key : Reader (Option (Property α))) := by
  cases key with
  | none => exact .fail _
  | some key =>
    exact .bind (forward_value key) fun _ => .bind (dialect.forward_endAssignment _) fun _ =>
      .pure _

theorem forward_propertyUnless (dialect : Dialect) (closed : Bool) :
    Forward (dialect.propertyUnless closed : Reader (Option (Property α))) := by
  unfold propertyUnless
  split
  · exact .pure _
  · exact .bind (.wordOf _ _) dialect.forward_propertyOf

theorem forward_property (dialect : Dialect) :
    Forward (dialect.property : Reader (Option (Property α))) :=
  .bind (.skipBlanks _) fun _ => .bind .atEnd fun _ => .bind (.require _ _) fun _ =>
    .bind (.accept _) dialect.forward_propertyUnless

theorem advances_propertyUnless (dialect : Dialect) (closed : Bool) :
    Advances (dialect.propertyUnless closed : Reader (Option (Property α))) (·.isSome) := by
  unfold propertyUnless
  split
  · exact .pure Bool.false_ne_true
  · refine .bind (.wordOf _ _) (.wordOf key_ne_nil)
      (fun key _ => dialect.forward_propertyOf key) ?_
    intro key h
    cases key with
    | none => exact .fail
    | some key => exact absurd rfl h

/-- A property takes at least its key. -/
theorem advances_property (dialect : Dialect) :
    Advances (dialect.property : Reader (Option (Property α))) (·.isSome) :=
  .after (.skipBlanks _) fun _ => .after .atEnd fun _ => .after (.require _ _) fun _ =>
    .after (.accept _) dialect.advances_propertyUnless

/-- Reads properties after those in `done`, the last of which comes first. -/
def propertiesFrom (dialect : Dialect) (done : List (Property α)) : Reader (List (Property α)) :=
  fun c =>
    match _h : dialect.property c with
    | .error e c' => .error e c'
    | .ok none c' => .ok done.reverse c'
    | .ok (some property) c' => dialect.propertiesFrom (property :: done) c'
termination_by c => c.rest.length
decreasing_by exact dialect.advances_property _ _ _ _h rfl

/-- Takes the line end behind a block, unless the text ends. -/
def endBlock : Reader Unit := fun c =>
  if c.rest.isEmpty then .ok () c else expect "\n" c

/-- Reads a block in braces and the end of its last line. -/
def block (dialect : Dialect) : Reader (List (Property α)) := do
  skipBlanks true
  expect "\x7b"
  let properties ← dialect.propertiesFrom []
  skipBlanks false
  endBlock
  return properties

/-- Reads a column number and the character of a row. -/
def cell (α : Type) [Scalar α] : Reader Cell := do
  let column ← integer α
  let row ← advance
  return ⟨column - 1, (row.toNat : Int) - 97⟩

def screen (dialect : Dialect) (screenSet : Bool) : Reader (Directive α) := do
  require (!screenSet) .screenSet
  let size ← assigned vec
  require (!(Scalar.isZero size.x || Scalar.isZero size.y)) .screenZero
  dialect.endAssignment false
  return .screen size

def directory (dialect : Dialect) : Reader String := do
  let path ← assigned quoted
  dialect.endAssignment false
  return path

def slide : Reader (Directive α) := do
  skipBlanks false
  let name ← quoted
  skipBlanks false
  let seconds ← number
  return .slide name seconds

def compact : Reader (Directive α) := do
  let number ← integer α
  skipBlanks false
  let size ← vec
  skipBlanks false
  let image ← cell α
  skipBlanks false
  let caption ← cell α
  return .compact number size image caption

def framed (dialect : Dialect) (make : String → List (Property α) → Directive α) :
    Reader (Directive α) := do
  let name ← quoted
  let properties ← dialect.block
  return make name properties

/-- Reads the rest of an image, which has a block if its name is quoted. -/
def imageFrom (dialect : Dialect) (next : Option Char) : Reader (Directive α) :=
  if next = some '"' then dialect.framed .image else compact

def directive (dialect : Dialect) (screenSet : Bool) : Keyword → Reader (Directive α)
  | .screen => dialect.screen screenSet
  | .imageDir => do return .imageDir (← dialect.directory)
  | .captionDir => do return .captionDir (← dialect.directory)
  | .slide => do
    require screenSet .screenUnset
    slide
  | .customImage => do
    require screenSet .screenUnset
    skipBlanks false
    dialect.framed .customImage
  | .image => do
    require screenSet .screenUnset
    skipBlanks false
    let next ← peek
    dialect.imageFrom next

/-- Takes one character that begins no directive. -/
def skipped : Reader (Phrase α) := do
  let (line, column) ← place
  let x ← advance
  return .skipped x line column

/-- Reads what follows a keyword, or takes a character where there is none. -/
def phraseOf (dialect : Dialect) (screenSet : Bool) : Option Keyword → Reader (Option (Phrase α))
  | none => do return some (← skipped)
  | some keyword => do return some (.directive (← dialect.directive screenSet keyword))

/-- Reads what follows the blanks of a description, unless it ends there. -/
def phraseUnless (dialect : Dialect) (screenSet ended : Bool) : Reader (Option (Phrase α)) :=
  if ended then pure none
  else wordOf Keyword.spelling dialect.keywords >>= dialect.phraseOf screenSet

/-- Reads the next phrase of a description, if there is one. -/
def phrase (dialect : Dialect) (screenSet : Bool) : Reader (Option (Phrase α)) := do
  skipBlanks true
  let ended ← atEnd
  dialect.phraseUnless screenSet ended

/-! ### Readers of directives only move forward -/

theorem forward_propertiesFrom (dialect : Dialect) (done : List (Property α)) :
    Forward (dialect.propertiesFrom done) := by
  intro c
  fun_induction dialect.propertiesFrom done c with
  | case1 done c e c' h =>
    obtain ⟨n, hn⟩ := dialect.forward_property (α := α) c
    exact ⟨n, by rw [← hn, h]; rfl⟩
  | case2 done c c' h =>
    obtain ⟨n, hn⟩ := dialect.forward_property (α := α) c
    exact ⟨n, by rw [← hn, h]; rfl⟩
  | case3 done c property c' h ih =>
    obtain ⟨m, hm⟩ := dialect.forward_property (α := α) c
    rw [h] at hm
    replace hm : c' = c.forward m := hm
    obtain ⟨n, hn⟩ := ih
    exact ⟨m + n, by rw [hn, Cursor.forward_add, hm]⟩

theorem forward_endBlock : Forward endBlock := by
  intro c
  unfold endBlock
  split
  · exact ⟨0, rfl⟩
  · exact Forward.expect _ c

theorem forward_block (dialect : Dialect) :
    Forward (dialect.block : Reader (List (Property α))) :=
  .bind (.skipBlanks _) fun _ => .bind (.expect _) fun _ =>
    .bind (dialect.forward_propertiesFrom _) fun _ => .bind (.skipBlanks _) fun _ =>
      .bind forward_endBlock fun _ => .pure _

theorem forward_cell : Forward (cell α) :=
  .bind .integer fun _ => .bind .advance fun _ => .pure _

theorem forward_screen (dialect : Dialect) (screenSet : Bool) :
    Forward (dialect.screen screenSet : Reader (Directive α)) :=
  .bind (.require _ _) fun _ => .bind (.assigned .vec) fun _ => .bind (.require _ _) fun _ =>
    .bind (dialect.forward_endAssignment _) fun _ => .pure _

theorem forward_directory (dialect : Dialect) : Forward dialect.directory :=
  .bind (.assigned .quoted) fun _ => .bind (dialect.forward_endAssignment _) fun _ => .pure _

theorem forward_slide : Forward (slide : Reader (Directive α)) :=
  .bind (.skipBlanks _) fun _ => .bind .quoted fun _ => .bind (.skipBlanks _) fun _ =>
    .bind .number fun _ => .pure _

theorem forward_compact : Forward (compact : Reader (Directive α)) :=
  .bind .integer fun _ => .bind (.skipBlanks _) fun _ => .bind .vec fun _ =>
    .bind (.skipBlanks _) fun _ => .bind forward_cell fun _ => .bind (.skipBlanks _) fun _ =>
      .bind forward_cell fun _ => .pure _

theorem forward_framed (dialect : Dialect) (make : String → List (Property α) → Directive α) :
    Forward (dialect.framed make) :=
  .bind .quoted fun _ => .bind dialect.forward_block fun _ => .pure _

theorem forward_imageFrom (dialect : Dialect) (next : Option Char) :
    Forward (dialect.imageFrom next : Reader (Directive α)) := by
  unfold imageFrom
  split
  · exact dialect.forward_framed _
  · exact forward_compact

theorem forward_directive (dialect : Dialect) (screenSet : Bool) (keyword : Keyword) :
    Forward (dialect.directive screenSet keyword : Reader (Directive α)) := by
  cases keyword with
  | screen => exact dialect.forward_screen screenSet
  | imageDir => exact .bind dialect.forward_directory fun _ => .pure _
  | captionDir => exact .bind dialect.forward_directory fun _ => .pure _
  | slide => exact .bind (.require _ _) fun _ => forward_slide
  | customImage =>
    exact .bind (.require _ _) fun _ => .bind (.skipBlanks _) fun _ => dialect.forward_framed _
  | image =>
    exact .bind (.require _ _) fun _ => .bind (.skipBlanks _) fun _ => .bind .peek fun _ =>
      dialect.forward_imageFrom _

theorem forward_skipped {β : Type} : Forward (skipped : Reader (Phrase β)) :=
  .bind .place fun _ => .bind .advance fun _ => .pure _

theorem forward_phraseOf (dialect : Dialect) (screenSet : Bool) (keyword : Option Keyword) :
    Forward (dialect.phraseOf screenSet keyword : Reader (Option (Phrase α))) := by
  cases keyword with
  | none => exact .bind forward_skipped fun _ => .pure _
  | some keyword => exact .bind (dialect.forward_directive screenSet keyword) fun _ => .pure _

theorem forward_phraseUnless (dialect : Dialect) (screenSet ended : Bool) :
    Forward (dialect.phraseUnless screenSet ended : Reader (Option (Phrase α))) := by
  unfold phraseUnless
  split
  · exact .pure _
  · exact .bind (.wordOf _ _) (dialect.forward_phraseOf screenSet)

theorem forward_phrase (dialect : Dialect) (screenSet : Bool) :
    Forward (dialect.phrase screenSet : Reader (Option (Phrase α))) :=
  .bind (.skipBlanks _) fun _ => .bind .atEnd (dialect.forward_phraseUnless screenSet)

theorem advances_phraseUnless (dialect : Dialect) (screenSet ended : Bool) :
    Advances (dialect.phraseUnless screenSet ended : Reader (Option (Phrase α))) (·.isSome) := by
  unfold phraseUnless
  split
  · exact .pure Bool.false_ne_true
  · refine .bind (.wordOf _ _) (.wordOf keyword_ne_nil)
      (fun keyword _ => dialect.forward_phraseOf screenSet keyword) ?_
    intro keyword h
    cases keyword with
    | none =>
      exact .before forward_skipped
        (.after .place fun _ => .before .advance .advance fun _ => .pure _) fun _ => .pure _
    | some keyword => exact absurd rfl h

/-- A phrase takes at least one character. -/
theorem advances_phrase (dialect : Dialect) (screenSet : Bool) :
    Advances (dialect.phrase screenSet : Reader (Option (Phrase α))) (·.isSome) :=
  .after (.skipBlanks _) fun _ => .after .atEnd (dialect.advances_phraseUnless screenSet)

end Dialect

end Slideshow
