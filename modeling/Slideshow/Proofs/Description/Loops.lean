import Mathlib.Data.List.Chain
import Slideshow.Proofs.Cursor.Coordinates
import Slideshow.Proofs.Cursor.Taken
import Slideshow.Proofs.Description.Atomicity
import Slideshow.Proofs.Description.Openings

/-!
# The loops of a run

A run makes its passes over a text, and over every block that it comes to. A pass that succeeds has
taken a character at least, or has found the end of the text. So there cannot be many more passes
than characters, of the ones and of the others.

## Main definitions

* `Dialect.propertyStarts`, `Dialect.blockStarts`: where the passes over a block begin, from a place
  in it on, and in the reading of a phrase.
* `Interpreter.passStarts`: where the passes of a run begin.

## Main statements

* `Dialect.advances_pass`, `Interpreter.position_of_pass`: what a single pass takes.
* `Dialect.length_blockStarts_of_phrase`: how many passes the block of a phrase takes.
* `Interpreter.chain_passStarts`: the passes of a run up to the one that ends it.
* `Interpreter.passes_of_interpret`: how many passes an interpretation takes.

## Design notes

The places are found along the same readers that the run itself goes through. The last pass over a
text may begin at its very end, where there is nothing left to take; it counts as well.
-/

namespace Slideshow

open Reader

variable {α : Type} [Scalar α]

/-! ### Progress -/

namespace Reader

variable {β : Type}

theorem Advances.accept (x : Char) : Advances (accept x) fun taken => taken = true := by
  intro c taken c' h htaken
  unfold Reader.accept at h
  split at h
  · next hhead =>
    cases h
    obtain ⟨rest, hrest⟩ := List.head?_eq_some_iff.mp hhead
    simp [hrest]
  · cases h
    cases htaken

theorem Forward.length_le_of_ok {r : Reader β} (h : Forward r) {c c' : Cursor} {b : β}
    (hc : r c = .ok b c') : c'.rest.length ≤ c.rest.length := by
  have hle := h.length_le c
  rwa [hc] at hle

/-- What takes a character is further on behind it. -/
theorem Advances.position_lt {r : Reader β} {P : β → Prop} (h : Advances r P) (hr : Forward r)
    {c c' : Cursor} {b : β} (hc : r c = .ok b c') (hb : P b) : c.position < c'.position := by
  obtain ⟨n, hn⟩ := hr c
  rw [hc] at hn
  replace hn : c' = c.forward n := hn
  have hlt := h c b c' hc hb
  have hlength := Cursor.position_forward_add_length n c
  rw [← hn] at hlength
  omega

end Reader

namespace Dialect

/-- A pass over a block takes a property or the closing brace. -/
theorem advances_pass (dialect : Dialect) :
    Advances (dialect.property : Reader (Option (Property α))) fun _ => True := by
  refine .after (.skipBlanks _) fun _ => .after .atEnd fun _ => .after (.require _ _) fun _ => ?_
  refine .bind (.accept _) (.accept _) (fun closed _ => dialect.forward_propertyUnless closed) ?_
  intro closed hopen
  rw [propertyUnless, if_neg hopen]
  refine .bind (.wordOf _ _) (.wordOf key_ne_nil) (fun key _ => dialect.forward_propertyOf key) ?_
  intro key hnone
  cases key with
  | none => exact .fail
  | some key => exact absurd rfl hnone

/-! ### Passes over a block -/

variable (α) in
/-- Where the passes over a block begin, from a place inside of it on. -/
def propertyStarts (dialect : Dialect) (c : Cursor) : List Cursor :=
  match _h : dialect.property (α := α) c with
  | .ok (some _) c' => c :: dialect.propertyStarts c'
  | _ => [c]
termination_by c.rest.length
decreasing_by exact dialect.advances_property _ _ _ _h rfl

variable (α) in
/-- Where the passes over a block begin in the reading of a phrase. There are none before the brace
that opens a block. -/
def blockStarts (dialect : Dialect) (screenSet : Bool) (c : Cursor) : List Cursor :=
  match dialect.opening (α := α) screenSet c with
  | .ok (.block _) c' => dialect.propertyStarts α c'
  | _ => []

variable {dialect : Dialect} {screenSet : Bool} {c c' : Cursor}

/-- All passes but the last one take a property. -/
theorem length_propertyStarts_le (dialect : Dialect) (c : Cursor) :
    (dialect.propertyStarts α c).length ≤ c.rest.length + 1 := by
  fun_induction dialect.propertyStarts α c with
  | case1 c property c' h ih =>
    have hlt : c'.rest.length < c.rest.length := dialect.advances_pass _ _ _ h trivial
    rw [List.length_cons]
    omega
  | case2 c _ => simp

/-- A block that is closed took a pass for each of its properties and one for the closing brace, and
each of them a character at least. -/
theorem length_propertyStarts {done block : List (Property α)}
    (h : dialect.propertiesFrom done c = .ok block c') :
    (dialect.propertyStarts α c).length + done.length = block.length + 1 ∧
      (dialect.propertyStarts α c).length + c'.rest.length ≤ c.rest.length := by
  fun_induction dialect.propertyStarts α c generalizing done with
  | case1 c property c'' hproperty ih =>
    rw [propertiesFrom_eq, hproperty] at h
    obtain ⟨hcount, hle⟩ := ih h
    have hlt : c''.rest.length < c.rest.length := dialect.advances_pass _ _ _ hproperty trivial
    rw [List.length_cons] at hcount ⊢
    omega
  | case2 c hlast =>
    rw [propertiesFrom_eq] at h
    cases hproperty : dialect.property (α := α) c with
    | error e d => rw [hproperty] at h; cases h
    | ok property d =>
      cases property with
      | some property => exact absurd hproperty (hlast _ _)
      | none =>
        rw [hproperty] at h
        cases h
        have hlt : c'.rest.length < c.rest.length := dialect.advances_pass _ _ _ hproperty trivial
        simp only [List.length_singleton, List.length_reverse]
        omega

/-! ### Passes over the block of a phrase -/

theorem blockStarts_of_block {make : List (Property α) → Directive α}
    (h : dialect.opening screenSet c = .ok (.block make) c') :
    dialect.blockStarts α screenSet c = dialect.propertyStarts α c' := by
  rw [blockStarts, h]

theorem length_blockStarts_le (dialect : Dialect) (screenSet : Bool) (c : Cursor) :
    (dialect.blockStarts α screenSet c).length ≤ c.rest.length + 1 := by
  unfold blockStarts
  split
  · next make c' h =>
    have hle := (dialect.forward_opening screenSet).length_le_of_ok h
    have hstarts := dialect.length_propertyStarts_le (α := α) c'
    omega
  · exact Nat.zero_le _

/-- Behind its properties nothing but the end of its last line belongs to a block. -/
theorem exists_block_of_completion {make : List (Property α) → Directive α}
    {phrase : Option (Phrase α)} (h : dialect.completion (.block make) c = .ok phrase c') :
    ∃ block c₁, dialect.propertiesFrom [] c = .ok block c₁ ∧
      c'.rest.length ≤ c₁.rest.length ∧ phrase = some (.directive (make block)) := by
  obtain ⟨block, c₁, hblock, h⟩ := bind_eq_ok h
  obtain ⟨_, c₂, hskip, h⟩ := bind_eq_ok h
  obtain ⟨_, c₃, hend, h⟩ := bind_eq_ok h
  cases h
  have hle := (Forward.skipBlanks false).length_le_of_ok hskip
  exact ⟨block, c₁, hblock, (forward_endBlock.length_le_of_ok hend).trans hle, rfl⟩

/-- The block of a phrase that was read took a pass for each of its properties and one for the
closing brace, and a phrase without a block took none. -/
theorem length_blockStarts_of_phrase {phrase : Option (Phrase α)}
    (h : dialect.phrase screenSet c = .ok phrase c') :
    (dialect.blockStarts α screenSet c).length + c'.rest.length ≤ c.rest.length ∧
      ∀ d, phrase = some (.directive d) →
        (dialect.blockStarts α screenSet c).length = d.block?.elim 0 fun block =>
          block.length + 1 := by
  rw [phrase_eq_opening] at h
  obtain ⟨o, c₁, hopening, h⟩ := bind_eq_ok h
  have hapt := dialect.yields_opening screenSet _ _ _ hopening
  have hle := (dialect.forward_opening screenSet).length_le_of_ok hopening
  cases o with
  | ended =>
    cases h
    simp only [blockStarts, hopening]
    exact ⟨by simpa using hle, nofun⟩
  | phrase p =>
    cases h
    simp only [blockStarts, hopening]
    refine ⟨by simpa using hle, fun d hd => ?_⟩
    cases hd
    rw [show d.block? = none from hapt]
    rfl
  | block make =>
    rw [blockStarts_of_block hopening]
    obtain ⟨block, c₂, hblock, hle', rfl⟩ := exists_block_of_completion h
    obtain ⟨hcount, hlength⟩ := length_propertyStarts hblock
    refine ⟨by omega, fun d hd => ?_⟩
    cases hd
    rw [hapt block]
    exact hcount

end Dialect

/-! ### Passes of a run -/

namespace Interpreter

variable {dialect : Dialect} {p p' : Progress α} {more : Bool}

/-- Where the passes of a run begin, up to the one that ends it. -/
def passStarts (dialect : Dialect) (p : Progress α) : List (Progress α) :=
  match _h : pass dialect p with
  | .ok true p' => p :: passStarts dialect p'
  | _ => [p]
termination_by p.cursor.rest.length
decreasing_by exact length_lt_of_pass _h

/-- Where the passes over a block begin in a pass of a run. -/
def blockStarts (dialect : Dialect) (p : Progress α) : List Cursor :=
  dialect.blockStarts α p.draft.screen.isSome p.cursor

/-- A pass reads a phrase, and says whether there was one. -/
theorem exists_phrase_of_pass (h : pass dialect p = .ok more p') :
    ∃ phrase, dialect.phrase (α := α) p.draft.screen.isSome p.cursor = .ok phrase p'.cursor ∧
      phrase.isSome = more := by
  rw [pass_eq, bind_apply] at h
  simp only [current, bind_apply, read] at h
  cases hphrase : dialect.phrase (α := α) p.draft.screen.isSome p.cursor with
  | error e c => rw [hphrase] at h; cases h
  | ok phrase c =>
    rw [hphrase] at h
    cases phrase with
    | none =>
      cases h
      exact ⟨none, rfl, rfl⟩
    | some phrase =>
      cases phrase with
      | skipped =>
        cases h
        exact ⟨_, rfl, rfl⟩
      | directive d =>
        replace h : (perform d >>= fun _ => pure true) ⟨c, p.draft⟩ = .ok more p' := h
        rw [bind_apply] at h
        cases hperform : perform d ⟨c, p.draft⟩ with
        | error e q => rw [hperform] at h; cases h
        | ok _ q =>
          rw [hperform] at h
          cases h
          have hcursor : p'.cursor = c := Still.perform d _ _ _ hperform
          exact ⟨_, by rw [hcursor], rfl⟩

/-- A pass that succeeds is further on behind it, or has found the end of the text. -/
theorem position_of_pass (h : pass dialect p = .ok more p') :
    if more then p.cursor.position < p'.cursor.position else p'.cursor.rest = [] := by
  obtain ⟨phrase, hphrase, hmore⟩ := exists_phrase_of_pass h
  cases phrase with
  | none =>
    cases hmore
    exact (Dialect.phrase_eq_none hphrase).2
  | some phrase =>
    cases hmore
    exact (dialect.advances_phrase _).position_lt (dialect.forward_phrase _) hphrase rfl

/-- All passes but the last one take a character. -/
theorem length_passStarts_le (dialect : Dialect) (p : Progress α) :
    (passStarts dialect p).length ≤ p.cursor.rest.length + 1 := by
  fun_induction passStarts dialect p with
  | case1 p p' h ih =>
    have hlt := length_lt_of_pass h
    rw [List.length_cons]
    omega
  | case2 p _ => simp

/-- All passes over blocks but one that fails take a character of their own. -/
theorem length_flatMap_blockStarts_le (dialect : Dialect) (p : Progress α) :
    ((passStarts dialect p).flatMap (blockStarts dialect)).length ≤ p.cursor.rest.length + 1 := by
  fun_induction passStarts dialect p with
  | case1 p p' h ih =>
    obtain ⟨phrase, hphrase, -⟩ := exists_phrase_of_pass h
    have hle := (Dialect.length_blockStarts_of_phrase hphrase).1
    rw [List.flatMap_cons, List.length_append, blockStarts]
    omega
  | case2 p _ =>
    rw [List.flatMap_singleton]
    exact dialect.length_blockStarts_le _ _

/-- The passes follow one another, and the last of them ends the run. -/
theorem chain_passStarts (dialect : Dialect) (p : Progress α) :
    (passStarts dialect p).head? = some p ∧ (passStarts dialect p).IsChain (Passes dialect) ∧
      ∃ last ∈ (passStarts dialect p).getLast?,
        (∃ e p', pass dialect last = .error e p' ∧ run dialect p = .error e p') ∨
          ∃ p', pass dialect last = .ok false p' ∧ run dialect p = .ok () p' := by
  fun_induction passStarts dialect p with
  | case1 p p' h ih =>
    obtain ⟨hhead, hchain, last, hlast, hrun⟩ := ih
    obtain ⟨starts, hstarts⟩ := List.head?_eq_some_iff.mp hhead
    rw [hstarts] at hchain hlast ⊢
    have hstep : run dialect p = run dialect p' := by
      rw [run_eq, h]
    refine ⟨rfl, .cons_cons h hchain, last, ?_, hstep ▸ hrun⟩
    rwa [List.getLast?_cons_cons]
  | case2 p hlast =>
    refine ⟨rfl, .singleton p, p, rfl, ?_⟩
    rw [run_eq]
    cases h : pass dialect p with
    | error e p' => exact .inl ⟨e, p', rfl, rfl⟩
    | ok more p' =>
      cases more with
      | false => exact .inr ⟨p', rfl, rfl⟩
      | true => exact absurd h (hlast p')

/-- Take any text, and any draft to go on from. A pass over the text that succeeds is further on
behind it or has found the end of the text, and a pass over a block that succeeds is further on.
From the beginning of the text pass follows upon pass up to one that ends the run, be it for the end
of the text or for a fault. A phrase with a block that is read takes a pass over the block for each
property and one for the closing brace. Altogether there are no more passes than the text has
characters and one, and no more passes over all blocks. -/
theorem passes_of_interpret (strictNewlines : Bool) (draft : Draft α) (text : String) :
    let dialect : Dialect := { strictNewlines }
    let start : Progress α := ⟨.ofText text, draft⟩
    let starts := passStarts dialect start
    (∀ (p p' : Progress α) (more : Bool), pass dialect p = .ok more p' →
      if more then p.cursor.position < p'.cursor.position else p'.cursor.rest = []) ∧
    (∀ (c c' : Cursor) (property : Option (Property α)), dialect.property c = .ok property c' →
      c.position < c'.position) ∧
    (starts.head? = some start ∧ starts.IsChain (Passes dialect) ∧ ∃ last ∈ starts.getLast?,
      (∃ e p', pass dialect last = .error e p' ∧ interpret dialect draft text = .error e p') ∨
        ∃ p', pass dialect last = .ok false p' ∧ interpret dialect draft text = .ok () p') ∧
    (∀ (p : Progress α) (d : Directive α) (c : Cursor),
      dialect.phrase p.draft.screen.isSome p.cursor = .ok (some (.directive d)) c →
        (blockStarts dialect p).length = d.block?.elim 0 fun block => block.length + 1) ∧
    starts.length ≤ text.length + 1 ∧
      (starts.flatMap (blockStarts dialect)).length ≤ text.length + 1 := by
  intro dialect start starts
  have hlength : start.cursor.rest.length = text.length := String.length_toList
  refine ⟨fun p p' more => position_of_pass, fun c c' property h => ?_,
    chain_passStarts dialect start, fun p d c h => ?_, ?_, ?_⟩
  · exact dialect.advances_pass.position_lt dialect.forward_property h trivial
  · exact (Dialect.length_blockStarts_of_phrase h).2 d rfl
  · exact hlength ▸ length_passStarts_le dialect start
  · exact hlength ▸ length_flatMap_blockStarts_le dialect start

/-- Behind the first property of the second block there is no other one and no brace either. That
makes three passes over the text and two over each of the blocks. -/
theorem passes_of_interpret_unclosed :
    let dialect : Dialect := { strictNewlines := false }
    let text := "screen = 4, 2\nimage \"a\" \x7b start = 3 \x7d\nimage \"b\" \x7b size = 4, 2 ?"
    let start : Progress Rat := ⟨.ofText text, .initial⟩
    let p : Progress Rat :=
      ⟨start.cursor.forward 13, { Draft.initial with screen := some ⟨4, 2⟩ }⟩
    let c := start.cursor.forward 25
    let c' := start.cursor.forward 36
    (pass dialect start = .ok true p ∧ start.cursor.position < p.cursor.position) ∧
    (dialect.property c = .ok (some (.start (3 : Rat))) c' ∧ c.position < c'.position) ∧
    (dialect.phrase p.draft.screen.isSome p.cursor =
      .ok (some (.directive (.image "a" [.start (3 : Rat)]))) (start.cursor.forward 38) ∧
      (blockStarts dialect p).length = 2) ∧
    (passStarts dialect start).length = 3 ∧
      ((passStarts dialect start).flatMap (blockStarts dialect)).length = 4 := by
  intro dialect text start p c c'
  have hpass : pass dialect start = .ok true p := by decide +kernel
  have hproperty : dialect.property c = .ok (some (.start (3 : Rat))) c' := by decide +kernel
  have hphrase : dialect.phrase p.draft.screen.isSome p.cursor =
      .ok (some (.directive (.image "a" [.start (3 : Rat)]))) (start.cursor.forward 38) := by
    decide +kernel
  obtain ⟨hpasses, hproperties, -, hblocks, -⟩ := passes_of_interpret (α := Rat) false .initial text
  exact ⟨⟨hpass, hpasses _ _ _ hpass⟩, ⟨hproperty, hproperties _ _ _ hproperty⟩,
    ⟨hphrase, hblocks _ _ _ hphrase⟩, by decide +kernel, by decide +kernel⟩

end Interpreter

end Slideshow
