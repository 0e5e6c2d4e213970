import Slideshow.Proofs.Cursor.Blanks

/-!
# Readers of given texts

Which text a reader takes, and with which answer, if it is known what lies ahead. A sequence of
readers takes the texts of its parts one after the other.

## Main definitions

* `Reader.Takes`: the reader takes a text that is followed by another one.
* `Reader.Covers`: so it does, but it may leave blanks at its end.
* `Reader.Continues`: so it does, and goes on like another reader.

## Main statements

* `Reader.Takes.bind`, `Reader.Covers.bind`: the text of a sequence.
* `Reader.Takes.wordOf`: of words that are looked for no two lie ahead at once.
-/

namespace Slideshow

namespace Cursor

/-- A text of blanks may be left or not. -/
theorem SameAhead.forward {blanks : List Char} (hblank : ∀ x ∈ blanks, x = ' ' ∨ x = '\n')
    {rest : List Char} {c : Cursor} (h : c.rest = blanks ++ rest) :
    (c.forward blanks.length).SameAhead c := by
  induction blanks generalizing c with
  | nil => exact .refl c
  | cons x blanks ih =>
    have hahead : blankAhead true c.rest = true := by
      obtain hx | hx := hblank x List.mem_cons_self <;> simp [h, hx, blankAhead]
    have hstep : c.step.rest = blanks ++ rest := by simp [h]
    exact (ih (fun y hy => hblank y (List.mem_cons_of_mem _ hy)) hstep).trans (.step hahead)

/-- A word that is not continued is no proper beginning of another one. -/
theorem eq_of_begins_of_hasWord {word word' : String} {c : Cursor}
    (hword' : ∀ x ∈ word'.toList, isWordChar x = true) (hbegin : word.toList <+: word'.toList)
    (h : c.hasWord word = true) (h' : c.hasText word' = true) : word = word' := by
  obtain ⟨more, hmore⟩ := hbegin
  obtain ⟨rest, hrest⟩ := hasText_iff.mp h'
  cases more with
  | nil => exact String.toList_inj.mp (by simpa using hmore)
  | cons x more =>
    -- A letter of the longer word would follow the shorter one.
    have hdrop : c.rest.drop word.toList.length = x :: (more ++ rest) := by
      rw [← hrest, ← hmore, List.append_assoc, List.drop_left]
      rfl
    have hx : isWordChar x = true := hword' x (by simp [← hmore])
    simp [hasWord, hdrop, hx] at h

/-- Two words ahead, neither of them continued, are the same. -/
theorem eq_of_hasWord {word word' : String} (hword : ∀ x ∈ word.toList, isWordChar x = true)
    (hword' : ∀ x ∈ word'.toList, isWordChar x = true) {c : Cursor}
    (h : c.hasWord word = true) (h' : c.hasWord word' = true) : word = word' := by
  have htext := (Bool.and_eq_true_iff.mp h).1
  have htext' := (Bool.and_eq_true_iff.mp h').1
  obtain hbegin | hbegin :=
    List.prefix_or_prefix_of_prefix (hasText_iff.mp htext) (hasText_iff.mp htext')
  · exact eq_of_begins_of_hasWord hword' hbegin h htext'
  · exact (eq_of_begins_of_hasWord hword hbegin h' htext).symm

end Cursor

namespace Reader

variable {β γ : Type} {text text' rest : List Char}

/-- With `text` and then `rest` ahead the reader takes `text` and answers `b`. -/
def Takes (r : Reader β) (text : List Char) (b : β) (rest : List Char) : Prop :=
  ∀ c, c.rest = text ++ rest → r c = .ok b (c.forward text.length)

/-- With `text` and then `rest` ahead the reader answers `b` and takes `text`, but for blanks. -/
def Covers (r : Reader β) (text : List Char) (b : β) (rest : List Char) : Prop :=
  ∀ c, c.rest = text ++ rest → ∃ c', r c = .ok b c' ∧ c'.SameAhead (c.forward text.length)

/-- With `text` and then `rest` ahead the reader takes `text` and goes on like `r'`. -/
def Continues (r : Reader β) (text : List Char) (r' : Reader β) (rest : List Char) : Prop :=
  ∀ c, c.rest = text ++ rest → r c = r' (c.forward text.length)

/-! ### Sequences -/

theorem Takes.pure (b : β) : Takes (pure b) [] b rest :=
  fun _ _ => rfl

theorem Takes.bind {r : Reader β} {f : β → Reader γ} {b : β} {b' : γ}
    (hr : Takes r text b (text' ++ rest)) (hf : Takes (f b) text' b' rest) :
    Takes (r >>= f) (text ++ text') b' rest := by
  intro c h
  rw [List.append_assoc] at h
  have hrest : (c.forward text.length).rest = text' ++ rest := by simp [h]
  rw [bind_apply, hr c h, List.length_append, Cursor.forward_add]
  exact hf _ hrest

theorem Covers.bind {r : Reader β} {f : β → Reader γ} {b : β} {b' : γ}
    (hr : Takes r text b (text' ++ rest)) (hf : Covers (f b) text' b' rest) :
    Covers (r >>= f) (text ++ text') b' rest := by
  intro c h
  rw [List.append_assoc] at h
  have hrest : (c.forward text.length).rest = text' ++ rest := by simp [h]
  rw [bind_apply, hr c h, List.length_append, Cursor.forward_add]
  exact hf _ hrest

theorem Takes.cons_bind {r : Reader β} {f : β → Reader γ} {x : Char} {b : β} {b' : γ}
    (hr : Takes r [x] b (text ++ rest)) (hf : Takes (f b) text b' rest) :
    Takes (r >>= f) (x :: text) b' rest :=
  .bind hr hf

/-- A part that takes nothing leaves the text to the next one. -/
theorem Takes.nil_bind {r : Reader β} {f : β → Reader γ} {b : β} {b' : γ}
    (hr : Takes r [] b (text ++ rest)) (hf : Takes (f b) text b' rest) :
    Takes (r >>= f) text b' rest :=
  .bind hr hf

theorem Covers.nil_bind {r : Reader β} {f : β → Reader γ} {b : β} {b' : γ}
    (hr : Takes r [] b (text ++ rest)) (hf : Covers (f b) text b' rest) :
    Covers (r >>= f) text b' rest :=
  .bind hr hf

theorem Takes.covers {r : Reader β} {b : β} (h : Takes r text b rest) : Covers r text b rest :=
  fun c hc => ⟨_, h c hc, .refl _⟩

theorem Takes.map {r : Reader β} {b : β} (h : Takes r text b rest) (f : β → γ) :
    Takes (r >>= fun b => Pure.pure (f b)) text (f b) rest := by
  intro c hc
  rw [bind_apply, h c hc]
  rfl

theorem Covers.map {r : Reader β} {b : β} (h : Covers r text b rest) (f : β → γ) :
    Covers (r >>= fun b => Pure.pure (f b)) text (f b) rest := by
  intro c hc
  obtain ⟨c', hc', hahead⟩ := h c hc
  rw [bind_apply, hc']
  exact ⟨c', rfl, hahead⟩

/-- Blanks behind what was taken may be left. -/
theorem Covers.append_blanks {r : Reader β} {b : β} {blanks : List Char}
    (h : Covers r text b (blanks ++ rest)) (hblank : ∀ x ∈ blanks, x = ' ' ∨ x = '\n') :
    Covers r (text ++ blanks) b rest := by
  intro c hc
  rw [List.append_assoc] at hc
  obtain ⟨c', hc', hahead⟩ := h c hc
  have hrest : (c.forward text.length).rest = blanks ++ rest := by simp [hc]
  refine ⟨c', hc', ?_⟩
  rw [List.length_append, Cursor.forward_add]
  exact hahead.trans (Cursor.SameAhead.forward hblank hrest).symm

/-! ### Readers that go on -/

theorem Takes.continues {r : Reader β} {b : β} (h : Takes r text b rest) (f : β → Reader γ) :
    Continues (r >>= f) text (f b) rest := by
  intro c hc
  rw [bind_apply, h c hc]

theorem Continues.bind {r r' : Reader β} (h : Continues r text r' rest) (f : β → Reader γ) :
    Continues (r >>= f) text (r' >>= f) rest := by
  intro c hc
  rw [bind_apply, bind_apply, h c hc]

theorem Continues.trans {r r' r'' : Reader β} (h : Continues r text r' (text' ++ rest))
    (h' : Continues r' text' r'' rest) : Continues r (text ++ text') r'' rest := by
  intro c hc
  rw [List.append_assoc] at hc
  have hrest : (c.forward text.length).rest = text' ++ rest := by simp [hc]
  rw [h c hc, List.length_append, Cursor.forward_add]
  exact h' _ hrest

/-- What takes nothing leaves the text to what follows. -/
theorem Continues.nil_trans {r r' r'' : Reader β} (h : Continues r [] r' (text ++ rest))
    (h' : Continues r' text r'' rest) : Continues r text r'' rest :=
  h.trans h'

theorem Continues.covers {r r' : Reader β} {b : β} (h : Continues r text r' (text' ++ rest))
    (h' : Covers r' text' b rest) : Covers r (text ++ text') b rest := by
  intro c hc
  rw [List.append_assoc] at hc
  have hrest : (c.forward text.length).rest = text' ++ rest := by simp [hc]
  rw [h c hc, List.length_append, Cursor.forward_add]
  exact h' _ hrest

/-! ### Readers of literal text -/

theorem Takes.require {holds : Bool} {fault : Fault} (h : holds = true) :
    Takes (require holds fault) [] () rest := by
  subst h
  exact .pure ()

theorem Takes.atEnd (hne : rest ≠ []) : Takes atEnd [] false rest := by
  intro c h
  have hrest : c.rest.isEmpty = false := by simpa [h] using hne
  rw [Reader.atEnd, hrest]
  rfl

theorem Takes.peek : Takes peek [] rest.head? rest := by
  intro c h
  rw [Reader.peek, h]
  rfl

theorem Takes.expect {word : String} (hword : word.toList = text) :
    Takes (expect word) text () rest := by
  subst hword
  intro c h
  have htext : c.hasText word = true := Cursor.hasText_iff.mpr (h ▸ List.prefix_append ..)
  rw [Reader.expect, if_pos htext]

theorem Takes.accept (x : Char) : Takes (accept x) [x] true rest := by
  intro c h
  have hhead : c.rest.head? = some x := by simp [h]
  rw [Reader.accept, if_pos hhead]
  rfl

theorem Takes.accept_of_ne {x : Char} (hne : rest.head? ≠ some x) :
    Takes (Reader.accept x) [] false rest := by
  intro c h
  have hhead : c.rest.head? ≠ some x := by simpa [h] using hne
  rw [Reader.accept, if_neg hhead]
  rfl

theorem Takes.advance (x : Char) : Takes advance [x] x rest := by
  intro c h
  have hrest : c.rest = x :: rest := h
  simp only [Reader.advance, hrest, List.length_singleton, Cursor.forward, Cursor.step]

/-- The longest run ends where its characters do. -/
theorem Takes.span {p : Char → Bool} {run : List Char} (hrun : ∀ x ∈ run, p x = true)
    (hrest : ∀ x, rest.head? = some x → p x = false) : Takes (span p) run run rest := by
  intro c h
  have htake : c.rest.takeWhile p = run := by
    rw [h, List.takeWhile_append_of_pos hrun]
    cases rest with
    | nil => simp
    | cons x rest => simp [hrest x rfl]
  show EStateM.Result.ok _ _ = _
  rw [htake]

theorem Takes.skipBlanks {newlines : Bool} {blanks : List Char}
    (hblank : ∀ x ∈ blanks, x = ' ' ∨ newlines = true ∧ x = '\n')
    (hrest : Cursor.blankAhead newlines rest = false) :
    Takes (skipBlanks newlines) blanks () rest := by
  intro c h
  show EStateM.Result.ok () (c.skipBlanks newlines) = _
  congr 1
  induction blanks generalizing c with
  | nil => exact Cursor.skipBlanks_of_not_blankAhead (h ▸ hrest)
  | cons x blanks ih =>
    have hahead : Cursor.blankAhead newlines c.rest = true := by
      obtain hx | ⟨hnewlines, hx⟩ := hblank x List.mem_cons_self
      · simp [h, hx, Cursor.blankAhead]
      · simp [h, hx, hnewlines, Cursor.blankAhead]
    rw [Cursor.skipBlanks_of_blankAhead hahead]
    exact ih (fun y hy => hblank y (List.mem_cons_of_mem _ hy)) c.step (by simp [h])

/-- Of words that are looked for no two lie ahead at once. -/
theorem Takes.wordOf {spelling : β → String} {keys : List β} {key : β}
    (hspelling : ∀ key, ∀ x ∈ (spelling key).toList, Cursor.isWordChar x = true)
    (hinj : ∀ key key', spelling key = spelling key' → key = key') (hmem : key ∈ keys)
    (hrest : ∀ x, rest.head? = some x → Cursor.isWordChar x = false) :
    Takes (wordOf spelling keys) (spelling key).toList (some key) rest := by
  intro c h
  have hword : c.hasWord (spelling key) = true := by
    have htext := Cursor.hasText_iff.mpr (h ▸ List.prefix_append ..)
    have hend : rest.head?.any Cursor.isWordChar = false := by
      cases rest with
      | nil => rfl
      | cons x rest => exact hrest x rfl
    simp [Cursor.hasWord, htext, h, hend]
  cases hfind : keys.find? fun key => c.hasWord (spelling key) with
  | none =>
    have hnone := List.find?_eq_none.mp hfind key hmem
    exact absurd hword hnone
  | some key' =>
    have hword' := List.find?_some (p := fun key => c.hasWord (spelling key)) hfind
    have hkey : key' = key :=
      hinj _ _ (Cursor.eq_of_hasWord (hspelling key') (hspelling key) hword' hword)
    simp only [Reader.wordOf, hfind, hkey]

end Reader

end Slideshow
