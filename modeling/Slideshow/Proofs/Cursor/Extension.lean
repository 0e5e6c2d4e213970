import Slideshow.Cursor.Value
import Slideshow.Proofs.Cursor.Blanks

/-!
# More text behind the end

What a reader has read does not depend on what comes later, unless it looks at the end of the text.
If a line end and more text follow instead, a reader that has succeeded succeeds again, and stops at
the same place or at one that only blanks divide from it.

## Main definitions

* `Cursor.extend`: the same place with more text behind the end.
* `Cursor.Settled`: what is ahead cannot be taken for part of the line end that follows.
* `Reader.Extends`, `Reader.Follows`: readers that stop at the same place, and readers that stop
  there but for blanks.
* `Reader.Refuses`: readers that want something settled ahead.

## Design notes

Blanks at the end of a text run on into the line end that follows, and so does a carriage return.
Hence skipping blanks is no `Extends` by itself, only before a reader that `Refuses` to go on there.
-/

namespace Slideshow

namespace Cursor

variable {newlines : Bool} {tail : List Char}

/-- The same place with `tail` behind the end of the text. -/
def extend (tail : List Char) (c : Cursor) : Cursor :=
  { c with rest := c.rest ++ tail }

@[simp] theorem extend_rest (tail : List Char) (c : Cursor) :
    (c.extend tail).rest = c.rest ++ tail :=
  rfl

theorem past_extend (c : Cursor) (x : Char) (rest tail : List Char) :
    (c.past x rest).extend tail = (c.extend tail).past x (rest ++ tail) := by
  unfold past
  split <;> rfl

theorem step_extend {c : Cursor} (h : c.rest ≠ []) :
    (c.extend tail).step = c.step.extend tail := by
  unfold step
  cases hrest : c.rest with
  | nil => exact absurd hrest h
  | cons x rest => simp only [extend_rest, hrest, List.cons_append, past_extend]

theorem forward_extend {n : Nat} {c : Cursor} (h : n ≤ c.rest.length) :
    forward n (c.extend tail) = (forward n c).extend tail := by
  induction n generalizing c with
  | zero => rfl
  | succ n ih =>
    have hne : c.rest ≠ [] := by
      intro hnil
      simp [hnil] at h
    have hle : n ≤ c.step.rest.length := by
      rw [step_rest, List.length_tail]
      omega
    rw [forward, forward, step_extend hne, ih hle]

theorem blankAhead_append {rest : List Char} (h : blankAhead newlines rest = true) :
    blankAhead newlines (rest ++ tail) = true := by
  unfold blankAhead at h
  split at h <;> simp_all [blankAhead]

theorem skipBlanks_extend (newlines : Bool) (tail : List Char) (c : Cursor) :
    ((c.skipBlanks newlines).extend tail).skipBlanks newlines =
      (c.extend tail).skipBlanks newlines := by
  fun_induction skipBlanks newlines c with
  | case1 c h ih =>
    have hne : c.rest ≠ [] := by
      intro hnil
      simp [hnil, blankAhead] at h
    rw [ih, ← step_extend hne, ← skipBlanks_of_blankAhead (blankAhead_append h)]
  | case2 c _ => rfl

/-- Something is ahead, and more than a carriage return whose line end may follow. -/
def Settled (c : Cursor) : Prop :=
  c.rest ≠ [] ∧ c.rest ≠ ['\r']

theorem Settled.skipBlanks_extend {c : Cursor} (h : (c.skipBlanks newlines).Settled) :
    (c.extend tail).skipBlanks newlines = (c.skipBlanks newlines).extend tail := by
  have hnot := blankAhead_skipBlanks newlines c
  rw [← Cursor.skipBlanks_extend]
  refine skipBlanks_of_not_blankAhead ?_
  rw [extend_rest]
  obtain ⟨hne, hreturn⟩ := h
  match hrest : (c.skipBlanks newlines).rest with
  | [] => exact absurd hrest hne
  | [x] =>
    -- Only a carriage return becomes blank by what follows it.
    rw [hrest] at hnot hreturn
    have hx : x ≠ '\r' := by simpa using hreturn
    unfold blankAhead at hnot ⊢
    split at hnot <;> simp_all
  | x :: y :: rest =>
    rw [hrest] at hnot
    unfold blankAhead at hnot ⊢
    split at hnot <;> simp_all

end Cursor

namespace Reader

variable {β γ : Type} {tail : List Char}

/-- With `tail` behind the end, a reader that has succeeded does so again and stops just there. -/
def Extends (tail : List Char) (r : Reader β) : Prop :=
  ∀ c b c', r c = .ok b c' → r (c.extend tail) = .ok b (c'.extend tail)

/-- With `tail` behind the end, a reader that has succeeded does so again and stops there but for
blanks. -/
def Follows (tail : List Char) (r : Reader β) : Prop :=
  ∀ c b c', r c = .ok b c' → ∃ d, r (c.extend tail) = .ok b d ∧ d.SameAhead (c'.extend tail)

/-- The reader does not succeed where nothing settled is ahead. -/
def Refuses (r : Reader β) : Prop :=
  ∀ c b c', r c = .ok b c' → c.Settled

/-! ### Sequences -/

theorem Refuses.bind {r : Reader β} (h : Refuses r) (f : β → Reader γ) : Refuses (r >>= f) := by
  intro c b' c'' hc
  rw [bind_apply] at hc
  cases hr : r c with
  | error e c' => rw [hr] at hc; cases hc
  | ok b c' => exact h c b c' hr

theorem Extends.follows {r : Reader β} (h : Extends tail r) : Follows tail r :=
  fun c b c' hc => ⟨c'.extend tail, h c b c' hc, .refl _⟩

theorem Extends.bind {r : Reader β} {f : β → Reader γ} (hr : Extends tail r)
    (hf : ∀ b, Extends tail (f b)) : Extends tail (r >>= f) := by
  intro c b' c'' hc
  rw [bind_apply] at hc ⊢
  cases hrc : r c with
  | error e c' => rw [hrc] at hc; cases hc
  | ok b c' =>
    rw [hrc] at hc
    rw [hr c b c' hrc]
    exact hf b c' b' c'' hc

theorem Extends.bind_follows {r : Reader β} {f : β → Reader γ} (hr : Extends tail r)
    (hf : ∀ b, Follows tail (f b)) : Follows tail (r >>= f) := by
  intro c b' c'' hc
  rw [bind_apply] at hc ⊢
  cases hrc : r c with
  | error e c' => rw [hrc] at hc; cases hc
  | ok b c' =>
    rw [hrc] at hc
    rw [hr c b c' hrc]
    exact hf b c' b' c'' hc

theorem Follows.map {r : Reader β} (h : Follows tail r) (f : β → γ) :
    Follows tail (r >>= fun b => pure (f b)) := by
  intro c b' c'' hc
  rw [bind_apply] at hc ⊢
  cases hrc : r c with
  | error e c' => rw [hrc] at hc; cases hc
  | ok b c' =>
    rw [hrc] at hc
    obtain ⟨d, hd, hahead⟩ := h c b c' hrc
    cases hc
    rw [hd]
    exact ⟨d, rfl, hahead⟩

/-- Blanks that something settled has to follow end where they did. -/
theorem Extends.skipBlanks_bind {newlines : Bool} {f : Unit → Reader γ}
    (hf : Extends tail (f ())) (hrefuses : Refuses (f ())) :
    Extends tail (skipBlanks newlines >>= f) := by
  intro c b c' hc
  replace hc : f () (c.skipBlanks newlines) = .ok b c' := hc
  show f () ((c.extend tail).skipBlanks newlines) = _
  rw [(hrefuses _ b c' hc).skipBlanks_extend]
  exact hf _ b c' hc

theorem Follows.skipBlanks_bind {newlines : Bool} {f : Unit → Reader γ}
    (hf : Follows tail (f ())) (hrefuses : Refuses (f ())) :
    Follows tail (skipBlanks newlines >>= f) := by
  intro c b c' hc
  replace hc : f () (c.skipBlanks newlines) = .ok b c' := hc
  show ∃ d, f () ((c.extend tail).skipBlanks newlines) = .ok b d ∧ _
  rw [(hrefuses _ b c' hc).skipBlanks_extend]
  exact hf _ b c' hc

/-! ### Readers of literal text -/

theorem Extends.pure (b : β) : Extends tail (pure b : Reader β) := by
  intro c b' c' h
  cases h
  rfl

theorem Extends.fail (fault : Fault) : Extends tail (fail fault : Reader β) :=
  fun _ _ _ h => nomatch h

theorem Extends.require (holds : Bool) (fault : Fault) : Extends tail (require holds fault) := by
  cases holds with
  | true => exact .pure ()
  | false => exact .fail fault

theorem Extends.ofExcept (x : Except NonFinite β) : Extends tail (ofExcept x) := by
  cases x with
  | ok b => exact .pure b
  | error kind => exact fun _ _ _ h => nomatch h

theorem Extends.place : Extends tail place := by
  intro c b c' h
  cases h
  rfl

theorem Extends.advance : Extends tail advance := by
  intro c b c' h
  unfold Reader.advance at h ⊢
  cases hrest : c.rest with
  | nil => rw [hrest] at h; cases h
  | cons x rest =>
    rw [hrest] at h
    cases h
    rw [Cursor.extend_rest, hrest, Cursor.past_extend]
    rfl

theorem Extends.expect (text : String) : Extends tail (expect text) := by
  intro c b c' h
  unfold Reader.expect at h ⊢
  by_cases htext : c.hasText text = true
  · rw [if_pos htext] at h
    cases h
    have hbegin : text.toList <+: c.rest := Cursor.hasText_iff.mp htext
    have htext' : (c.extend tail).hasText text = true :=
      Cursor.hasText_iff.mpr (hbegin.trans (List.prefix_append ..))
    rw [if_pos htext', Cursor.forward_extend hbegin.length_le]
  · rw [if_neg htext] at h
    cases h

theorem Refuses.expect {text : String} (hne : text.toList ≠ []) (hreturn : text.toList ≠ ['\r']) :
    Refuses (expect text) := by
  intro c b c' h
  unfold Reader.expect at h
  by_cases htext : c.hasText text = true
  · have hbegin : text.toList <+: c.rest := Cursor.hasText_iff.mp htext
    refine ⟨fun hnil => ?_, fun hone => ?_⟩
    · rw [hnil, List.prefix_nil] at hbegin
      exact hne hbegin
    · rw [hone] at hbegin
      cases htext' : text.toList with
      | nil => exact hne htext'
      | cons x xs =>
        rw [htext', List.cons_prefix_cons, List.prefix_nil] at hbegin
        exact hreturn (by rw [htext', hbegin.1, hbegin.2])
  · rw [if_neg htext] at h
    cases h

/-- A character that is no line end is not found in the line end that follows. -/
theorem Extends.accept {x : Char} (hx : x ≠ '\n') {rest : List Char} :
    Extends ('\n' :: rest) (accept x) := by
  intro c b c' h
  unfold Reader.accept at h ⊢
  cases hrest : c.rest with
  | nil =>
    rw [hrest, if_neg (by simp)] at h
    cases h
    rw [Cursor.extend_rest, hrest, if_neg (by simpa using Ne.symm hx)]
  | cons y ys =>
    have hhead : (c.extend ('\n' :: rest)).rest.head? = c.rest.head? := by
      simp [hrest]
    rw [hhead]
    by_cases hx : c.rest.head? = some x
    · rw [if_pos hx] at h ⊢
      cases h
      rw [Cursor.step_extend (by simp [hrest])]
    · rw [if_neg hx] at h ⊢
      cases h
      rfl

theorem Extends.span {p : Char → Bool} (hp : p '\n' = false) {rest : List Char} :
    Extends ('\n' :: rest) (span p) := by
  intro c b c' h
  cases h
  have hrun : (c.extend ('\n' :: rest)).rest.takeWhile p = c.rest.takeWhile p := by
    rw [Cursor.extend_rest, List.takeWhile_append]
    split
    · -- The run goes up to the end, and no further.
      next hall =>
      rw [List.takeWhile_cons_of_neg (by simp [hp]), List.append_nil]
      have hrun := List.takeWhile_prefix (l := c.rest) p
      exact (hrun.eq_of_length hall).symm
    · rfl
  show EStateM.Result.ok _ _ = _
  have hle := List.takeWhile_prefix (l := c.rest) p
  rw [hrun, Cursor.forward_extend hle.length_le]

/-- A run of characters that something has to follow ends where it did. -/
theorem Extends.span_bind {p : Char → Bool} {f : List Char → Reader γ}
    (hf : ∀ run, Extends tail (f run)) (hend : ∀ run c b c', f run c = .ok b c' → c.rest ≠ []) :
    Extends tail (Reader.span p >>= f) := by
  intro c b c' h
  replace h : f (c.rest.takeWhile p) (c.forward (c.rest.takeWhile p).length) = .ok b c' := h
  have hne := hend _ _ _ _ h
  rw [Cursor.forward_rest] at hne
  have hrun : (c.extend tail).rest.takeWhile p = c.rest.takeWhile p := by
    rw [Cursor.extend_rest, List.takeWhile_append, if_neg]
    intro hall
    rw [hall, List.drop_length] at hne
    exact hne rfl
  show f _ (Cursor.forward _ (c.extend tail)) = _
  have hle := List.takeWhile_prefix (l := c.rest) p
  rw [hrun, Cursor.forward_extend hle.length_le]
  exact hf _ _ _ _ h

/-! ### Readers of values -/

theorem Extends.quoted : Extends tail quoted := by
  refine .bind (.expect _) fun _ => .span_bind (fun run => .bind (.expect _) fun _ => .pure _) ?_
  intro run c b c' h
  have hquote : Refuses (Reader.expect "\"") := .expect (by decide) (by decide)
  exact (hquote.bind _ c b c' h).1

theorem Refuses.quoted : Refuses quoted :=
  .bind (.expect (by decide) (by decide)) _

variable {α : Type} [Scalar α] {rest : List Char}

theorem Extends.number : Extends ('\n' :: rest) (number : Reader α) := by
  refine .bind (.accept (by decide)) fun _ => .bind (.span (by decide)) fun _ => ?_
  refine .bind (.require _ _) fun _ => .bind (.accept (by decide)) fun pointed => ?_
  refine .bind ?_ fun _ => .pure _
  unfold placesAfter
  split
  · exact .span (by decide)
  · exact .pure _

theorem Refuses.number : Refuses (number : Reader α) := by
  intro c b c' h
  refine ⟨fun hnil => ?_, fun hreturn => ?_⟩
  · simp [Reader.number, bind_apply, accept, span, hnil, Cursor.forward, require, fail] at h
  · simp [Reader.number, bind_apply, accept, span, hreturn, isDigit, Cursor.forward, require,
      fail] at h

theorem Extends.vec : Extends ('\n' :: rest) (vec : Reader (Vec α)) := by
  refine .bind .number fun x => .skipBlanks_bind ?_ (.bind (.expect (by decide) (by decide)) _)
  refine .bind (.expect _) fun _ => .skipBlanks_bind ?_ (.bind .number _)
  exact .bind .number fun _ => .pure _

theorem Refuses.vec : Refuses (vec : Reader (Vec α)) :=
  .bind .number _

theorem Extends.integer : Extends ('\n' :: rest) (integer α) :=
  .bind .number fun _ => .ofExcept _

theorem Refuses.integer : Refuses (integer α) :=
  .bind .number _

/-- The blanks behind an assigned value run on; the rest starts with them. -/
theorem Follows.assigned_bind {value : Reader β} {f : β → Reader γ} (hv : Extends tail value)
    (hrefuses : Refuses value) (hf : ∀ b, Follows tail (skipBlanks false >>= fun _ => f b)) :
    Follows tail (assigned value >>= f) := by
  have hassigned : assigned value >>= f = skipBlanks false >>= fun _ => expect "=" >>= fun _ =>
      skipBlanks false >>= fun _ => value >>= fun b => skipBlanks false >>= fun _ => f b := by
    simp only [assigned, bind_assoc, pure_bind]
  rw [hassigned]
  refine .skipBlanks_bind ?_ (.bind (.expect (by decide) (by decide)) _)
  refine (Extends.expect _).bind_follows fun _ => .skipBlanks_bind ?_ (hrefuses.bind _)
  exact hv.bind_follows hf

end Reader

end Slideshow
