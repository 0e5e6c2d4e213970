import Slideshow.Description.Written
import Slideshow.Proofs.Cursor.Taking

/-!
# Reading written values

A value is read as it was written, up to where it ends. A quoted text ends by itself; a number ends
where nothing continues it, so that depends on what follows.

## Main definitions

* `Written.Avoids`: what does not continue a word or a number.
* `Written.Numeral.Ends`: what may follow a number.

## Main statements

* `Written.takes_number`, `Written.takes_vec`, `Written.takes_quoted`: written values are read.
-/

namespace Slideshow

namespace Written

open Reader

variable {α β : Type} [Scalar α] {rest : List Char}

/-- What is ahead does not begin with a character in `p`. -/
def Avoids (p : Char → Bool) (rest : List Char) : Prop :=
  ∀ x, rest.head? = some x → p x = false

/-- A digit or a point, which continues a number. -/
def continuesNumber (x : Char) : Bool :=
  isDigit x || x == '.'

/-- What follows does not continue the number. It may be a point if the number has one. -/
def Numeral.Ends (n : Numeral) : List Char → Prop :=
  Avoids fun x => isDigit x || (n.places.isNone && x == '.')

def Pair.Ends (p : Pair) : List Char → Prop :=
  p.y.Ends

/-! ### What is ahead -/

theorem avoids_nil {p : Char → Bool} : Avoids p [] := by
  intro x hx
  cases hx

theorem avoids_cons {p : Char → Bool} {x : Char} (h : p x = false) : Avoids p (x :: rest) := by
  intro y hy
  cases hy
  exact h

theorem avoids_spaces {p : Char → Bool} (hspace : p ' ' = false) {n : Nat} (h : Avoids p rest) :
    Avoids p (spaces n ++ rest) := by
  cases n with
  | zero => exact h
  | succ n => exact avoids_cons hspace

theorem avoids_append {p : Char → Bool} {text : List Char} (h : Avoids p text) (hne : text ≠ [])
    (rest : List Char) : Avoids p (text ++ rest) := by
  obtain ⟨x, more, rfl⟩ := List.exists_cons_of_ne_nil hne
  exact h

theorem avoids_of_append {p : Char → Bool} {text rest : List Char} (h : Avoids p (text ++ rest)) :
    Avoids p text := by
  intro x hx
  refine h x ?_
  rw [List.head?_append, hx]
  rfl

theorem ends_of_avoids (n : Numeral) (h : Avoids continuesNumber rest) : n.Ends rest := by
  intro x hx
  have := h x hx
  simp_all [continuesNumber]

/-- The first character of a number. -/
theorem exists_text_eq_cons (n : Numeral) :
    ∃ x xs, n.text = x :: xs ∧ (x = '-' ∨ isDigit x = true) := by
  obtain ⟨d, ds, hwhole⟩ := List.exists_cons_of_ne_nil n.whole_ne_nil
  rw [Numeral.text, Numeral.sign]
  cases n.negative with
  | true => exact ⟨'-', _, rfl, .inl rfl⟩
  | false =>
    refine ⟨d, ds ++ Numeral.fraction n.places, by simp [hwhole], .inr ?_⟩
    exact n.whole_digits d (by simp [hwhole])

theorem blankAhead_numeral (newlines : Bool) (n : Numeral) :
    Cursor.blankAhead newlines (n.text ++ rest) = false := by
  obtain ⟨x, xs, htext, hx⟩ := exists_text_eq_cons n
  rw [htext, List.cons_append]
  unfold Cursor.blankAhead
  split <;> simp_all [isDigit]

theorem blankAhead_pair (newlines : Bool) (p : Pair) (more : List Char) :
    Cursor.blankAhead newlines (p.text ++ more) = false := by
  rw [Pair.text, List.append_assoc]
  exact blankAhead_numeral newlines p.x

/-- An assignment begins with a space or its equals sign. -/
theorem avoids_assignment {Value : Type} {valueText : Value → List Char} (a : Assignment Value)
    (more : List Char) : Avoids Cursor.isWordChar (a.text valueText ++ more) := by
  rw [Assignment.text, List.append_assoc]
  exact avoids_spaces (by decide) (avoids_cons (by decide))

theorem avoids_setting (s : Setting) (more : List Char) :
    Avoids Cursor.isWordChar (s.text ++ more) := by
  cases s <;> exact avoids_assignment _ more

/-! ### Values -/

theorem takes_spaces (n : Nat) (h : Cursor.blankAhead false rest = false) :
    Takes (skipBlanks false) (spaces n) () rest :=
  .skipBlanks (fun _ hx => .inl (List.eq_of_mem_replicate hx)) h

theorem takes_sign (n : Numeral) :
    Takes (accept '-') (Numeral.sign n.negative) n.negative
      (n.whole ++ Numeral.fraction n.places ++ rest) := by
  cases n.negative with
  | true => exact .accept '-'
  | false =>
    refine .accept_of_ne fun hhead => ?_
    obtain ⟨d, ds, hwhole⟩ := List.exists_cons_of_ne_nil n.whole_ne_nil
    have hd : isDigit d = true := n.whole_digits d (by simp [hwhole])
    have hminus : d = '-' := by simpa [hwhole] using hhead
    simp [hminus, isDigit] at hd

theorem takes_fraction {n : Numeral} (h : n.Ends rest) (f : List Char → β) :
    Takes (accept '.' >>= fun pointed => placesAfter pointed >>= fun places => pure (f places))
      (Numeral.fraction n.places) (f (n.places.getD [])) rest := by
  have hdigits := n.places_digits
  unfold Numeral.Ends at h
  cases hplaces : n.places with
  | none =>
    refine Takes.nil_bind (.accept_of_ne fun hpoint => ?_) (.map (.pure []) f)
    simpa [hplaces] using h '.' hpoint
  | some places =>
    have hdigit : ∀ x, rest.head? = some x → isDigit x = false := fun x hx => by
      simpa [hplaces] using h x hx
    rw [hplaces] at hdigits
    exact Takes.cons_bind (.accept '.') (.map (.span hdigits hdigit) f)

theorem takes_number (n : Numeral) (h : n.Ends rest) :
    Takes (number : Reader α) n.text n.value rest := by
  -- The first digits end at the point, or where the whole number does.
  have hfraction : ∀ x, (Numeral.fraction n.places ++ rest).head? = some x → isDigit x = false := by
    intro x hx
    cases hplaces : n.places with
    | none =>
      rw [hplaces] at hx
      have := h x hx
      simp_all
    | some places =>
      rw [hplaces] at hx
      cases hx
      decide
  refine (takes_sign n).bind ((Takes.span n.whole_digits hfraction).bind ?_)
  refine Takes.nil_bind (.require (by simpa using n.whole_ne_nil)) ?_
  exact takes_fraction h fun places =>
    if n.negative then -(addPlaces (wholeOf n.whole) places) else addPlaces (wholeOf n.whole) places

theorem takes_vec (p : Pair) (h : p.Ends rest) :
    Takes (vec : Reader (Vec α)) p.text p.value rest := by
  refine .bind (takes_number p.x (ends_of_avoids _ ?_)) (.bind (takes_spaces p.before rfl) ?_)
  · rw [List.append_assoc]
    exact avoids_spaces (by decide) (avoids_cons (by decide))
  refine .cons_bind (.expect (by decide)) (.bind (takes_spaces p.after ?_) ?_)
  · exact blankAhead_numeral _ _
  · exact (takes_number p.y h).map (Vec.mk p.x.value)

theorem takes_quoted (q : Quote) : Takes quoted q.text q.content rest := by
  have hplain : ∀ x ∈ q.content.toList, (x != '"') = true := fun x hx => by
    simpa using ne_of_mem_of_not_mem hx q.plain
  have hquoted : Takes quoted q.text (String.ofList q.content.toList) rest := by
    refine .cons_bind (.expect (by decide)) (.bind (.span hplain fun x hx => ?_) ?_)
    · cases hx
      rfl
    · exact (Takes.expect (by decide)).map fun _ => String.ofList q.content.toList
  rwa [String.ofList_toList] at hquoted

theorem takes_integer (n : Counted α) (h : n.Ends rest) :
    Takes (integer α) n.text n.integer rest := by
  intro c hc
  rw [integer, bind_apply, takes_number n.toNumeral h c hc]
  show Reader.ofExcept (Scalar.truncate n.value) _ = _
  rw [n.truncate_value]
  rfl

end Written

end Slideshow
