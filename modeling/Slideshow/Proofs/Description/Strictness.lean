import Slideshow.Proofs.Description.Outcome
import Slideshow.Proofs.Description.Phrases

/-!
# Line ends after assignments

A strict dialect wants a line end after every assignment, a lenient one does not. The two readings
of a text are out of step after each assignment, since only the strict one has taken the line end,
and meet again where the next blanks are skipped.

## Main definitions

* `AssignmentEnd`: the place behind an assignment, and whether the line is closed there.
* `Dialect.assignmentEnds`: the ends of all assignments of a text, in their order.
* `Reader.Tightens`: a reader that does what another one does up to the first open line.

## Main statements

* `Dialect.tightens_phrase`: the strict reader of phrases tightens the lenient one.
* `Reading.onward_strict`: so does the strict reading of a text.
-/

namespace Slideshow

/-- The place behind an assignment and the blanks that follow it. -/
structure AssignmentEnd where
  inBlock : Bool
  cursor : Cursor
  deriving DecidableEq, Repr

namespace AssignmentEnd

/-- Whether the line, the text or, in a block, the block ends here. -/
def closed (e : AssignmentEnd) : Bool :=
  match e.cursor.rest with
  | [] => true
  | x :: _ => x == '\n' || (e.inBlock && x == '}')

/-- The complaint about a line that does not end here. -/
def refusal (e : AssignmentEnd) : Failure :=
  .grammar (.expected "\n") e.cursor.line e.cursor.column

/-- The first of the ends at which something else follows. -/
def firstOpen (ends : List AssignmentEnd) : Option AssignmentEnd :=
  ends.find? fun e => !e.closed

theorem firstOpen_cons_of_closed {e : AssignmentEnd} (h : e.closed = true)
    (ends : List AssignmentEnd) : firstOpen (e :: ends) = firstOpen ends := by
  simp [firstOpen, h]

theorem firstOpen_append (first second : List AssignmentEnd) :
    firstOpen (first ++ second) = (firstOpen first).or (firstOpen second) :=
  List.find?_append

theorem firstOpen_cons_of_open {e : AssignmentEnd} (h : e.closed = false)
    (ends : List AssignmentEnd) : firstOpen (e :: ends) = some e := by
  simp [firstOpen, h]

end AssignmentEnd

open AssignmentEnd

namespace Reader

variable {β γ : Type}

/-- Equal results, but for blanks that only one of them has taken. -/
def Alike : EStateM.Result Failure Cursor β → EStateM.Result Failure Cursor β → Prop
  | .ok b c, .ok b' c' => b = b' ∧ c.SameAhead c'
  | .error e c, .error e' c' => e = e' ∧ c = c'
  | _, _ => False

theorem Alike.refl (r : EStateM.Result Failure Cursor β) : Alike r r := by
  cases r with
  | ok b c => exact ⟨rfl, .refl c⟩
  | error e c => exact ⟨rfl, rfl⟩

theorem Alike.eq_error {r : EStateM.Result Failure Cursor β} {e : Failure} {c : Cursor}
    (h : Alike r (.error e c)) : r = .error e c := by
  cases r with
  | ok b d => exact h.elim
  | error e' d => rw [h.1, h.2]

theorem Alike.exists_eq_ok {r : EStateM.Result Failure Cursor β} {b : β} {c : Cursor}
    (h : Alike r (.ok b c)) : ∃ d, r = .ok b d ∧ d.SameAhead c := by
  cases r with
  | ok b' d => exact ⟨d, by rw [h.1], h.2⟩
  | error e d => exact h.elim

/-- `strict` fails at the first open line among `ends`. If there is none, its results are those of
`lenient` up to `R`, and the same where nothing has to end. -/
structure Tightens (R : EStateM.Result Failure Cursor β → EStateM.Result Failure Cursor β → Prop)
    (strict lenient : Reader β) (ends : Cursor → List AssignmentEnd) (c : Cursor) : Prop where
  same : ends c = [] → strict c = lenient c
  closed : firstOpen (ends c) = none → R (strict c) (lenient c)
  refused : ∀ e, firstOpen (ends c) = some e → strict c = .error e.refusal e.cursor

/-- The place behind what `r` has read, if its answer counts as an assignment. -/
def endsOf (inBlock : Bool) (counts : β → Bool) (r : Reader β) (c : Cursor) : List AssignmentEnd :=
  match r c with
  | .ok b c' => if counts b then [⟨inBlock, c'⟩] else []
  | .error .. => []

/-- The ends in the second part of a sequence. -/
def endsAfter (r : Reader β) (ends : β → Cursor → List AssignmentEnd) (c : Cursor) :
    List AssignmentEnd :=
  match r c with
  | .ok b c' => ends b c'
  | .error .. => []

namespace Tightens

variable {c : Cursor}

theorem alike {strict lenient : Reader β} {ends : Cursor → List AssignmentEnd}
    (h : Tightens Eq strict lenient ends c) : Tightens Alike strict lenient ends c where
  same := h.same
  closed hnone := by
    rw [h.closed hnone]
    exact .refl _
  refused := h.refused

/-- Readers that come down to others at another place inherit what holds of those. -/
theorem of_apply {R : EStateM.Result Failure Cursor β → EStateM.Result Failure Cursor β → Prop}
    {strict lenient strict' lenient' : Reader β} {ends ends' : Cursor → List AssignmentEnd}
    {d : Cursor} (h : Tightens R strict' lenient' ends' d) (hs : strict c = strict' d)
    (hl : lenient c = lenient' d) (he : ends c = ends' d) : Tightens R strict lenient ends c where
  same := by
    rw [hs, hl, he]
    exact h.same
  closed := by
    rw [hs, hl, he]
    exact h.closed
  refused := by
    rw [hs, he]
    exact h.refused

theorem of_eq {R : EStateM.Result Failure Cursor β → EStateM.Result Failure Cursor β → Prop}
    (hR : ∀ r, R r r) {strict lenient : Reader β} {ends : Cursor → List AssignmentEnd}
    (h : strict c = lenient c) (hends : ends c = []) : Tightens R strict lenient ends c where
  same _ := h
  closed _ := h ▸ hR _
  refused e he := by
    rw [hends] at he
    cases he

theorem of_refused {R : EStateM.Result Failure Cursor β → EStateM.Result Failure Cursor β → Prop}
    {strict lenient : Reader β} {ends : Cursor → List AssignmentEnd} {e : AssignmentEnd}
    (hopen : firstOpen (ends c) = some e) (h : strict c = .error e.refusal e.cursor) :
    Tightens R strict lenient ends c where
  same hnil := by
    rw [hnil] at hopen
    cases hopen
  closed hnone := by
    rw [hnone] at hopen
    cases hopen
  refused e' he := by
    rw [hopen] at he
    cases he
    exact h

/-- A line that is closed makes no difference to what comes behind it. -/
theorem cons_of_closed
    {R : EStateM.Result Failure Cursor β → EStateM.Result Failure Cursor β → Prop}
    {strict lenient strict' lenient' : Reader β} {ends ends' : Cursor → List AssignmentEnd}
    {d : Cursor} {e : AssignmentEnd} (hclosed : e.closed = true)
    (h : Tightens R strict' lenient' ends' d) (hs : strict c = strict' d)
    (hl : lenient c = lenient' d) (he : ends c = e :: ends' d) :
    Tightens R strict lenient ends c where
  same hnil := by
    rw [he] at hnil
    cases hnil
  closed := by
    rw [hs, hl, he, firstOpen_cons_of_closed hclosed]
    exact h.closed
  refused := by
    rw [hs, he, firstOpen_cons_of_closed hclosed]
    exact h.refused

/-- A common first part is read before any line end. -/
theorem bind_right {R : EStateM.Result Failure Cursor γ → EStateM.Result Failure Cursor γ → Prop}
    (hR : ∀ r, R r r) (r : Reader β) {strict lenient : β → Reader γ}
    {ends : β → Cursor → List AssignmentEnd}
    (h : ∀ b c, Tightens R (strict b) (lenient b) (ends b) c) :
    Tightens R (r >>= strict) (r >>= lenient) (endsAfter r ends) c := by
  cases hr : r c with
  | error e c' =>
    refine .of_eq hR ?_ ?_
    · rw [bind_apply, bind_apply, hr]
    · rw [endsAfter, hr]
  | ok b c' =>
    have hs : (r >>= strict) c = strict b c' := by rw [bind_apply, hr]
    have hl : (r >>= lenient) c = lenient b c' := by rw [bind_apply, hr]
    have he : endsAfter r ends c = ends b c' := by rw [endsAfter, hr]
    exact .of_apply (h b c') hs hl he

/-- A common first part does not change where the assignment ends. -/
theorem bind_endsOf {inBlock : Bool} {counts : γ → Bool} (r : Reader β)
    {strict lenient : β → Reader γ}
    (h : ∀ b c, Tightens Alike (strict b) (lenient b) (endsOf inBlock counts (lenient b)) c) :
    Tightens Alike (r >>= strict) (r >>= lenient) (endsOf inBlock counts (r >>= lenient)) c := by
  have hends : endsOf inBlock counts (r >>= lenient) =
      endsAfter r fun b => endsOf inBlock counts (lenient b) := by
    funext c
    rw [endsOf, bind_apply, endsAfter]
    cases r c <;> rfl
  rw [hends]
  exact bind_right Alike.refl r h

/-- What follows in both dialects alike keeps their difference. -/
theorem bind_left {strict lenient : Reader β} {ends : Cursor → List AssignmentEnd}
    (h : Tightens Eq strict lenient ends c) (f : β → Reader γ) :
    Tightens Eq (strict >>= f) (lenient >>= f) ends c where
  same hnil := by rw [bind_apply, bind_apply, h.same hnil]
  closed hnone := by rw [bind_apply, bind_apply, h.closed hnone]
  refused e he := by rw [bind_apply, h.refused e he]

theorem map {strict lenient : Reader β} {ends : Cursor → List AssignmentEnd}
    (h : Tightens Alike strict lenient ends c) (f : β → γ) :
    Tightens Alike (strict >>= fun b => pure (f b)) (lenient >>= fun b => pure (f b)) ends c where
  same hnil := by rw [bind_apply, bind_apply, h.same hnil]
  closed hnone := by
    have hc := h.closed hnone
    rw [bind_apply, bind_apply]
    cases hl : lenient c with
    | error e d =>
      rw [hl] at hc
      rw [hc.eq_error]
      exact .refl _
    | ok b d =>
      rw [hl] at hc
      obtain ⟨d', hd, hahead⟩ := hc.exists_eq_ok
      rw [hd]
      exact ⟨rfl, hahead⟩
  refused e he := by rw [bind_apply, h.refused e he]

end Tightens

end Reader

namespace Dialect

open Reader

def strict (dialect : Dialect) : Dialect := { dialect with strictNewlines := true }

def lenient (dialect : Dialect) : Dialect := { dialect with strictNewlines := false }

variable {α β γ : Type} [Scalar α]

theorem endAssignment_lenient (dialect : Dialect) (inBlock : Bool) (c : Cursor) :
    dialect.lenient.endAssignment inBlock c = .ok () c := by
  simp [endAssignment, lenient]

/-- A strict dialect takes the line end, if that is what closes the line. -/
theorem endAssignment_strict_of_closed (dialect : Dialect) {e : AssignmentEnd}
    (h : e.closed = true) :
    ∃ d, dialect.strict.endAssignment e.inBlock e.cursor = .ok () d ∧ d.SameAhead e.cursor := by
  obtain ⟨inBlock, c⟩ := e
  cases hrest : c.rest with
  | nil => exact ⟨c, by simp [endAssignment, hrest], .refl c⟩
  | cons x rest =>
    simp only [closed, hrest, Bool.or_eq_true, beq_iff_eq, Bool.and_eq_true] at h
    by_cases hx : x = '\n'
    · subst hx
      refine ⟨c.step, ?_, .step (by simp [Cursor.blankAhead, hrest])⟩
      simp [endAssignment, strict, hrest, expect, Cursor.hasText, Cursor.forward]
    · obtain ⟨hin, hbrace⟩ := h.resolve_left hx
      exact ⟨c, by simp [endAssignment, hrest, hin, hbrace], .refl c⟩

theorem endAssignment_strict_of_open (dialect : Dialect) {e : AssignmentEnd}
    (h : e.closed = false) :
    dialect.strict.endAssignment e.inBlock e.cursor = .error e.refusal e.cursor := by
  obtain ⟨inBlock, c⟩ := e
  cases hrest : c.rest with
  | nil => simp [closed, hrest] at h
  | cons x rest =>
    simp only [closed, hrest, Bool.or_eq_false_iff] at h
    have hne : '\n' ≠ x := by
      rintro rfl
      simp at h
    simp [endAssignment, strict, hrest, h.2, hne, expect, Cursor.hasText, fail, refusal]

theorem tightens_endAssignment (dialect : Dialect) (inBlock : Bool) (c : Cursor) :
    Tightens Alike (dialect.strict.endAssignment inBlock) (dialect.lenient.endAssignment inBlock)
      (fun c => [⟨inBlock, c⟩]) c := by
  cases hclosed : closed ⟨inBlock, c⟩ with
  | true =>
    obtain ⟨d, hd, hahead⟩ := dialect.endAssignment_strict_of_closed hclosed
    constructor
    · intro hnil
      cases hnil
    · intro _
      rw [endAssignment_lenient]
      exact hd ▸ ⟨rfl, hahead⟩
    · intro e he
      rw [firstOpen_cons_of_closed hclosed] at he
      cases he
  | false =>
    exact .of_refused (firstOpen_cons_of_open hclosed [])
      (endAssignment_strict_of_open dialect hclosed)

/-- An assignment is strict in its line end only. -/
theorem tightens_assignment (dialect : Dialect) (r : Reader β) (inBlock : Bool) (f : β → γ)
    {counts : γ → Bool} (hcounts : ∀ b, counts (f b) = true) (c : Cursor) :
    Tightens Alike
      (r >>= fun b => dialect.strict.endAssignment inBlock >>= fun _ => pure (f b))
      (r >>= fun b => dialect.lenient.endAssignment inBlock >>= fun _ => pure (f b))
      (endsOf inBlock counts
        (r >>= fun b => dialect.lenient.endAssignment inBlock >>= fun _ => pure (f b))) c := by
  refine .bind_endsOf r fun b c => ?_
  have hends : endsOf inBlock counts
      (dialect.lenient.endAssignment inBlock >>= fun _ => pure (f b)) =
        fun c => [⟨inBlock, c⟩] := by
    funext c
    simp only [endsOf, bind_apply, endAssignment_lenient]
    exact if_pos (hcounts b)
  rw [hends]
  exact .map (dialect.tightens_endAssignment inBlock c) fun _ => f b

/-! ### Assignments in blocks -/

theorem tightens_property (dialect : Dialect) (c : Cursor) :
    Tightens Alike (dialect.strict.property (α := α)) dialect.lenient.property
      (endsOf true Option.isSome (dialect.lenient.property (α := α))) c := by
  refine .bind_endsOf _ fun _ _ => .bind_endsOf _ fun _ _ => .bind_endsOf _ fun _ _ =>
    .bind_endsOf _ fun closed c => ?_
  unfold propertyUnless
  split
  · exact .of_eq Alike.refl rfl rfl
  · refine .bind_endsOf _ fun key c => ?_
    cases key with
    | none => exact .of_eq Alike.refl rfl rfl
    | some key =>
      exact dialect.tightens_assignment (value key : Reader (Property α)) true some (fun _ => rfl) c

variable (α) in
/-- The ends of the assignments in the rest of a block. -/
def propertyEnds (dialect : Dialect) (c : Cursor) : List AssignmentEnd :=
  match _h : dialect.lenient.property (α := α) c with
  | .ok (some _) c' => ⟨true, c'⟩ :: propertyEnds dialect c'
  | _ => []
termination_by c.rest.length
decreasing_by exact dialect.lenient.advances_property _ _ _ _h rfl

theorem propertyEnds_eq (dialect : Dialect) (c : Cursor) :
    dialect.propertyEnds α c = match dialect.lenient.property (α := α) c with
      | .ok (some _) c' => ⟨true, c'⟩ :: dialect.propertyEnds α c'
      | _ => [] := by
  rw [propertyEnds]
  split <;> simp only [*]

/-- A strict dialect fails in a block at its first open line. -/
theorem tightens_propertiesFrom (dialect : Dialect) (done : List (Property α)) (c : Cursor) :
    Tightens Eq (dialect.strict.propertiesFrom done) (dialect.lenient.propertiesFrom done)
      (dialect.propertyEnds α) c := by
  -- Every property takes its key, so what is ahead gets shorter.
  induction hn : c.rest.length using Nat.strongRecOn generalizing done c with
  | ind n ih =>
    have hproperty := dialect.tightens_property (α := α) c
    have hends := dialect.propertyEnds_eq (α := α) c
    have hs := dialect.strict.propertiesFrom_eq done c
    have hl := dialect.lenient.propertiesFrom_eq done c
    cases hp : dialect.lenient.property (α := α) c with
    | error e c' =>
      have hsame := hproperty.same (by rw [endsOf, hp])
      rw [hp] at hsame hends hl
      exact .of_eq (fun _ => rfl) (by rw [hs, hl, hsame]) hends
    | ok answer c' =>
      cases answer with
      | none =>
        have hsame := hproperty.same (by rw [endsOf, hp]; rfl)
        rw [hp] at hsame hends hl
        exact .of_eq (fun _ => rfl) (by rw [hs, hl, hsame]) hends
      | some property =>
        have hend : endsOf true Option.isSome (dialect.lenient.property (α := α)) c =
            [⟨true, c'⟩] := by
          rw [endsOf, hp]
          rfl
        have hlt : c'.rest.length < n := hn ▸ dialect.lenient.advances_property _ _ _ hp rfl
        rw [hp] at hends hl
        cases hclosed : closed ⟨true, c'⟩ with
        | true =>
          have halike := hproperty.closed (by rw [hend, firstOpen_cons_of_closed hclosed]; rfl)
          -- The strict reader may have taken the line end; the next property skips it anyway.
          have hs' : dialect.strict.propertiesFrom done c =
              dialect.strict.propertiesFrom (property :: done) c' := by
            rw [hp] at halike
            obtain ⟨d, hd, hahead⟩ := halike.exists_eq_ok
            rw [hd] at hs
            exact hs.trans (dialect.strict.skips_propertiesFrom _ d c' hahead)
          exact .cons_of_closed hclosed (ih _ hlt (property :: done) c' rfl) hs' hl hends
        | false =>
          have hrefuse := hproperty.refused _ (by rw [hend, firstOpen_cons_of_open hclosed])
          rw [hrefuse] at hs
          exact .of_refused (by rw [hends, firstOpen_cons_of_open hclosed]) hs

/-! ### Assignments in directives -/

/-- Takes a name and the brace that opens its block. -/
def frame : Reader Unit := do
  let _ ← quoted
  skipBlanks true
  expect "\x7b"

theorem frame_of_head?_ne {c : Cursor} (h : c.rest.head? ≠ some '"') :
    ∃ e c', frame c = .error e c' := by
  have htext : c.hasText "\"" = false := by
    cases hrest : c.rest with
    | nil => simp [Cursor.hasText, hrest]
    | cons x rest =>
      rw [hrest] at h
      simp only [List.head?_cons, ne_eq, Option.some.injEq] at h
      simp [Cursor.hasText, hrest, List.isPrefixOf, Ne.symm h]
  simp [frame, quoted, bind_apply, expect, htext, fail]

theorem tightens_block (dialect : Dialect) (c : Cursor) :
    Tightens Eq (dialect.strict.block (α := α)) dialect.lenient.block
      (endsAfter (skipBlanks true) fun _ => endsAfter (expect "\x7b") fun _ =>
        dialect.propertyEnds α) c := by
  refine .bind_right (fun _ => rfl) _ fun _ c => .bind_right (fun _ => rfl) _ fun _ c => ?_
  exact .bind_left (dialect.tightens_propertiesFrom [] c) _

theorem tightens_framed (dialect : Dialect) (make : String → List (Property α) → Directive α)
    (c : Cursor) :
    Tightens Eq (dialect.strict.framed make) (dialect.lenient.framed make)
      (endsAfter frame fun _ => dialect.propertyEnds α) c := by
  have hends : endsAfter frame (fun _ => dialect.propertyEnds α) =
      endsAfter quoted fun _ => endsAfter (skipBlanks true) fun _ =>
        endsAfter (expect "\x7b") fun _ => dialect.propertyEnds α := by
    funext c
    simp only [frame, endsAfter, bind_apply]
    cases quoted c with
    | error e c' => rfl
    | ok name c' => rfl
  rw [hends]
  exact .bind_right (fun _ => rfl) _ fun name c => .bind_left (dialect.tightens_block c) _

variable (α) in
/-- The ends of the assignments in what follows a keyword. -/
def directiveEnds (dialect : Dialect) (screenSet : Bool) : Keyword → Cursor → List AssignmentEnd
  | .screen => endsOf false (fun _ => true) (dialect.lenient.screen (α := α) screenSet)
  | .imageDir | .captionDir => endsOf false (fun _ => true) dialect.lenient.directory
  | .slide => fun _ => []
  | .customImage | .image => fun c =>
    if screenSet then endsAfter frame (fun _ => dialect.propertyEnds α) (c.skipBlanks false) else []

variable (α) in
/-- The ends of the assignments in the next phrase. -/
def phraseEnds (dialect : Dialect) (screenSet : Bool) (c : Cursor) : List AssignmentEnd :=
  match wordOf Keyword.spelling dialect.keywords (c.skipBlanks true) with
  | .ok (some keyword) c' => dialect.directiveEnds α screenSet keyword c'
  | _ => []

variable (α) in
/-- The ends of the assignments in the rest of a text. -/
def assignmentEnds (dialect : Dialect) (screenSet : Bool) (c : Cursor) : List AssignmentEnd :=
  dialect.phraseEnds α screenSet c ++
    match _h : dialect.lenient.phrase (α := α) screenSet c with
    | .ok (some phrase) c' => assignmentEnds dialect (screenSet || phrase.setsScreen) c'
    | _ => []
termination_by c.rest.length
decreasing_by exact dialect.lenient.advances_phrase _ _ _ _ _h rfl

theorem directive_image_of_unset (dialect : Dialect) :
    dialect.directive (α := α) false .image = fail .screenUnset :=
  rfl

theorem directive_customImage_of_unset (dialect : Dialect) :
    dialect.directive (α := α) false .customImage = fail .screenUnset :=
  rfl

theorem tightens_directive (dialect : Dialect) (screenSet : Bool) (keyword : Keyword) (c : Cursor) :
    Tightens Alike (dialect.strict.directive (α := α) screenSet keyword)
      (dialect.lenient.directive screenSet keyword)
      (dialect.directiveEnds α screenSet keyword) c := by
  cases keyword with
  | screen =>
    refine .bind_endsOf _ fun _ c => .bind_endsOf _ fun size c => ?_
    exact dialect.tightens_assignment _ false (fun _ => Directive.screen size) (fun _ => rfl) c
  | imageDir =>
    exact .map (dialect.tightens_assignment (assigned quoted) false id (fun _ => rfl) c) _
  | captionDir =>
    exact .map (dialect.tightens_assignment (assigned quoted) false id (fun _ => rfl) c) _
  | slide => exact .of_eq Alike.refl rfl rfl
  | customImage =>
    cases screenSet with
    | false =>
      rw [directive_customImage_of_unset, directive_customImage_of_unset]
      exact .of_eq Alike.refl rfl rfl
    | true =>
      exact .of_apply (dialect.tightens_framed .customImage (c.skipBlanks false)).alike rfl rfl rfl
  | image =>
    cases screenSet with
    | false =>
      rw [directive_image_of_unset, directive_image_of_unset]
      exact .of_eq Alike.refl rfl rfl
    | true =>
      by_cases hquote : (c.skipBlanks false).rest.head? = some '"'
      · refine .of_apply (dialect.tightens_framed .image (c.skipBlanks false)).alike ?_ ?_ rfl
        · show dialect.strict.imageFrom _ _ = _
          rw [imageFrom, if_pos hquote]
        · show dialect.lenient.imageFrom _ _ = _
          rw [imageFrom, if_pos hquote]
      · obtain ⟨e, d, hframe⟩ := frame_of_head?_ne hquote
        refine .of_eq Alike.refl ?_ ?_
        · show dialect.strict.imageFrom _ _ = dialect.lenient.imageFrom _ _
          rw [imageFrom, imageFrom, if_neg hquote, if_neg hquote]
        · simp [directiveEnds, endsAfter, hframe]

theorem tightens_phrase (dialect : Dialect) (screenSet : Bool) (c : Cursor) :
    Tightens Alike (dialect.strict.phrase (α := α) screenSet) (dialect.lenient.phrase screenSet)
      (dialect.phraseEnds α screenSet) c := by
  have hs := dialect.strict.phrase_eq (α := α) screenSet c
  have hl := dialect.lenient.phrase_eq (α := α) screenSet c
  by_cases hnil : (c.skipBlanks true).rest = []
  · rw [if_pos hnil] at hs hl
    refine .of_eq Alike.refl (hs.trans hl.symm) ?_
    rw [phraseEnds, wordOf_keyword_of_head?_ne _ (by simp [hnil])]
  · rw [if_neg hnil, bind_apply] at hs hl
    have hkeywords : dialect.strict.keywords = dialect.keywords := rfl
    have hkeywords' : dialect.lenient.keywords = dialect.keywords := rfl
    rw [hkeywords] at hs
    rw [hkeywords'] at hl
    cases hw : wordOf Keyword.spelling dialect.keywords (c.skipBlanks true) with
    | error e c' =>
      rw [hw] at hs hl
      exact .of_eq Alike.refl (hs.trans hl.symm) (by rw [phraseEnds, hw])
    | ok keyword c' =>
      rw [hw] at hs hl
      cases keyword with
      | none => exact .of_eq Alike.refl (hs.trans hl.symm) (by rw [phraseEnds, hw])
      | some keyword =>
        have hdirective := (dialect.tightens_directive (α := α) screenSet keyword c').map
          fun d => some (Phrase.directive d)
        exact .of_apply hdirective hs hl (by rw [phraseEnds, hw])

theorem assignmentEnds_eq (dialect : Dialect) (screenSet : Bool) (c : Cursor) :
    dialect.assignmentEnds α screenSet c = dialect.phraseEnds α screenSet c ++
      match dialect.lenient.phrase (α := α) screenSet c with
      | .ok (some phrase) c' => dialect.assignmentEnds α (screenSet || phrase.setsScreen) c'
      | _ => [] := by
  rw [assignmentEnds]
  congr 1
  split <;> simp only [*]

end Dialect

namespace Reading

variable {α : Type} [Scalar α]

/-- Up to the first open line the two readings are the same, and the strict one ends there. -/
theorem onward_strict (dialect : Dialect) (draft : Draft α) (c : Cursor) :
    (firstOpen (dialect.assignmentEnds α draft.screen.isSome c) = none →
      onward dialect.strict draft c = onward dialect.lenient draft c) ∧
    ∀ e, firstOpen (dialect.assignmentEnds α draft.screen.isSome c) = some e →
      (onward dialect.strict draft c).failure = some e.refusal ∧
      (onward dialect.strict draft c).cursor = e.cursor ∧
      (onward dialect.strict draft c).phrases <+: (onward dialect.lenient draft c).phrases := by
  induction draft, c using induction (α := α) dialect.lenient with
  | step draft c ih =>
    have hphrase := dialect.tightens_phrase (α := α) draft.screen.isSome c
    have hends := dialect.assignmentEnds_eq (α := α) draft.screen.isSome c
    cases hopen : firstOpen (dialect.phraseEnds α draft.screen.isSome c) with
    | some e =>
      rw [hends, firstOpen_append, hopen, onward_of_error (hphrase.refused e hopen)]
      refine ⟨fun hnone => (nomatch hnone), fun e' he' => ?_⟩
      cases he'
      exact ⟨rfl, rfl, List.nil_prefix⟩
    | none =>
      have halike := hphrase.closed hopen
      cases hlenient : dialect.lenient.phrase (α := α) draft.screen.isSome c with
      | error e c' =>
        rw [hlenient] at halike hends
        rw [hends, firstOpen_append, hopen, onward_of_error halike.eq_error,
          onward_of_error hlenient]
        exact ⟨fun _ => rfl, fun e' he' => nomatch he'⟩
      | ok phrase c' =>
        cases phrase with
        | none =>
          rw [hlenient] at hends
          obtain ⟨hd, hnil⟩ := Dialect.phrase_eq_none hlenient
          have hstrict : dialect.strict.phrase (α := α) draft.screen.isSome c = .ok none c' := by
            rw [dialect.strict.phrase_eq, if_pos (hd ▸ hnil), hd]
          rw [hends, firstOpen_append, hopen, onward_of_none hstrict, onward_of_none hlenient]
          exact ⟨fun _ => rfl, fun e' he' => nomatch he'⟩
        | some phrase =>
          rw [hlenient] at halike hends
          obtain ⟨d, hstrict, hahead⟩ := halike.exists_eq_ok
          replace hends : dialect.assignmentEnds α draft.screen.isSome c =
              dialect.phraseEnds α draft.screen.isSome c ++
                dialect.assignmentEnds α (draft.take phrase).screen.isSome c' := by
            rw [hends, Draft.isSome_screen_take]
          -- Both readings go on from the same place, but for the line end.
          have hskip : onward dialect.strict (draft.take phrase) d =
              onward dialect.strict (draft.take phrase) c' := by
            rw [onward_eq, onward_eq, dialect.strict.skips_phrase _ d c' hahead]
          obtain ⟨hnone, hsome⟩ := ih phrase c' hlenient
          rw [hends, firstOpen_append, hopen, Option.none_or, onward_of_some hstrict,
            onward_of_some hlenient, hskip]
          refine ⟨fun hopen' => ?_, fun e he => ?_⟩
          · rw [hnone hopen']
          · obtain ⟨hfailure, hcursor, hphrases⟩ := hsome e he
            exact ⟨hfailure, hcursor, (List.prefix_cons_inj phrase).mpr hphrases⟩

/-- Being strict only rejects. If every assignment of the lenient reading is followed by the end of
its line, of the text or of its block, the strict reading is the same. Otherwise it ends in a
complaint about the missing line end, at what follows the first assignment that is not, and its
items are the first ones of the lenient reading. In particular what a strict dialect accepts a
lenient one reads just so. -/
theorem ofText_strict (dialect : Dialect) (text : String) :
    let strict : Reading α := ofText dialect.strict text
    let lenient : Reading α := ofText dialect.lenient text
    (match firstOpen (dialect.assignmentEnds α false (.ofText text)) with
      | none => strict = lenient
      | some e =>
        strict.failure = some (.grammar (.expected "\n") e.cursor.line e.cursor.column) ∧
        strict.draft.timeline.declared <+: lenient.draft.timeline.declared) ∧
    (strict.failure = none → lenient = strict) := by
  intro strict lenient
  have honward := onward_strict (α := α) dialect .initial (.ofText text)
  cases hopen : firstOpen (dialect.assignmentEnds α false (.ofText text)) with
  | none =>
    have heq : strict = lenient := honward.1 hopen
    exact ⟨heq, fun _ => heq.symm⟩
  | some e =>
    obtain ⟨hfailure, _, rest, hphrases⟩ := honward.2 e hopen
    have hlenient : lenient.phrases = strict.phrases ++ rest := hphrases.symm
    refine ⟨⟨hfailure, ?_⟩, fun hnone => ?_⟩
    · rw [draft, draft, hlenient, Draft.takeAll_append]
      exact Draft.declared_begins_takeAll _ rest
    · have hsome : strict.failure = some e.refusal := hfailure
      rw [hnone] at hsome
      cases hsome

/-- The line of the screen is open at what follows its size. -/
example : firstOpen (({ strictNewlines := true } : Dialect).assignmentEnds Rat false
    (.ofText "screen=1,1 x")) = some ⟨false, ⟨['x'], 11, 1, 12⟩⟩ := by
  decide +kernel

end Reading

end Slideshow
