import Slideshow.Cursor.Reader

/-!
# Blanks

Where the skipping of blanks stops. A stop for spaces only lies on the way to the stop for line ends
as well, so readers that skip all blanks first do not see which of the two was made before.

## Main definitions

* `Cursor.SameAhead`: two places that differ in blanks only.
* `Reader.Skips`: readers that skip all blanks first.

## Main statements

* `Cursor.blankAhead_skipBlanks`: no blank is left.
* `Cursor.skipBlanks_true_skipBlanks`: skipping spaces before all blanks changes nothing.
-/

namespace Slideshow

namespace Cursor

theorem hasText_iff {word : String} {c : Cursor} :
    c.hasText word = true ↔ word.toList <+: c.rest :=
  List.isPrefixOf_iff_prefix

theorem skipBlanks_of_blankAhead {newlines : Bool} {c : Cursor}
    (h : blankAhead newlines c.rest = true) :
    c.skipBlanks newlines = c.step.skipBlanks newlines := by
  rw [skipBlanks, if_pos h]

theorem skipBlanks_of_not_blankAhead {newlines : Bool} {c : Cursor}
    (h : blankAhead newlines c.rest = false) : c.skipBlanks newlines = c := by
  rw [skipBlanks, if_neg (by simp [h])]

/-- No blank is left. -/
theorem blankAhead_skipBlanks (newlines : Bool) (c : Cursor) :
    blankAhead newlines (c.skipBlanks newlines).rest = false := by
  fun_induction skipBlanks newlines c with
  | case1 c _ ih => exact ih
  | case2 c h => simpa using h

/-- What makes a blank. -/
theorem blankAhead_cases {newlines : Bool} {rest : List Char}
    (h : blankAhead newlines rest = true) :
    rest.head? = some ' ' ∨ newlines = true ∧ rest.head? = some '\n' ∨
      ∃ more, rest = '\r' :: '\n' :: more := by
  unfold blankAhead at h
  split at h
  · exact .inl rfl
  · exact .inr (.inl ⟨h, rfl⟩)
  · exact .inr (.inr ⟨_, rfl⟩)
  · cases h

/-- The first character decides whether there is a blank, and for a carriage return the second. -/
theorem blankAhead_cons (newlines : Bool) (x : Char) (rest : List Char) :
    blankAhead newlines (x :: rest) =
      (x == ' ' || (newlines && x == '\n') || (x == '\r' && ['\n'].isPrefixOf rest)) := by
  rw [blankAhead.eq_def]
  split
  · simp_all
  · simp_all
  · simp_all
  · next hreturn =>
    cases rest with
    | nil => simp_all [List.isPrefixOf]
    | cons y rest =>
      have hend : x = '\r' → '\n' ≠ y := by
        rintro rfl rfl
        exact hreturn rest rfl
      simp_all [List.isPrefixOf]

/-- What is blank where line ends are not is blank where they are. -/
theorem blankAhead_true_of_blankAhead {newlines : Bool} {rest : List Char}
    (h : blankAhead newlines rest = true) : blankAhead true rest = true := by
  unfold blankAhead at h ⊢
  split at h <;> simp_all

/-- Skipping some blanks before all blanks changes nothing. -/
theorem skipBlanks_true_skipBlanks (newlines : Bool) (c : Cursor) :
    (c.skipBlanks newlines).skipBlanks true = c.skipBlanks true := by
  fun_induction skipBlanks newlines c with
  | case1 c h ih => rw [ih, skipBlanks_of_blankAhead (blankAhead_true_of_blankAhead h)]
  | case2 c _ => rfl

/-- Two places with the same first character ahead that is not blank. -/
def SameAhead (c d : Cursor) : Prop :=
  c.skipBlanks true = d.skipBlanks true

namespace SameAhead

theorem refl (c : Cursor) : SameAhead c c := rfl

theorem symm {c d : Cursor} (h : SameAhead c d) : SameAhead d c := Eq.symm h

theorem trans {c d e : Cursor} (h : SameAhead c d) (h' : SameAhead d e) : SameAhead c e :=
  Eq.trans h h'

theorem skipBlanks (newlines : Bool) (c : Cursor) : SameAhead (c.skipBlanks newlines) c :=
  skipBlanks_true_skipBlanks newlines c

theorem step {c : Cursor} (h : blankAhead true c.rest = true) : SameAhead c.step c :=
  (skipBlanks_of_blankAhead h).symm

end SameAhead

end Cursor

namespace Reader

variable {β γ : Type}

/-- The reader skips all blanks first. -/
def Skips (r : Reader β) : Prop :=
  ∀ c d, c.SameAhead d → r c = r d

theorem Skips.skipBlanks_bind (f : Unit → Reader β) : Skips (skipBlanks true >>= f) := by
  intro c d h
  rw [bind_apply, bind_apply]
  show f () (c.skipBlanks true) = f () (d.skipBlanks true)
  rw [h]

end Reader

end Slideshow
