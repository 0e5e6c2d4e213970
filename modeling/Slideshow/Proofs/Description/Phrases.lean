import Slideshow.Description.Reader
import Slideshow.Proofs.Cursor.Taking

/-!
# The next phrase

How the readers of properties and phrases begin. Both skip all blanks first, and only then look
whether anything is left.

## Main statements

* `Dialect.phrase_eq`: the next phrase by way of what follows the blanks.
* `Dialect.phrase_eq_none`: there is no phrase left only where the text ends.
* `Dialect.phrase_of_not_mem`: what no keyword begins with is skipped.
* `Dialect.skips_phrase`, `Dialect.skips_propertiesFrom`: blanks before do not matter.
* `Dialect.continues_phrase`: behind a keyword its directive is read.
-/

namespace Slideshow

theorem Keyword.mem_all (keyword : Keyword) : keyword ∈ Keyword.all := by
  cases keyword <;> decide

theorem Key.mem_all (key : Key) : key ∈ Key.all := by
  cases key <;> decide

namespace Dialect

open Reader

variable {α β : Type} [Scalar α]

theorem skips_property (dialect : Dialect) :
    Skips (dialect.property : Reader (Option (Property α))) :=
  .skipBlanks_bind _

theorem propertiesFrom_eq (dialect : Dialect) (done : List (Property α)) (c : Cursor) :
    dialect.propertiesFrom done c = match dialect.property c with
      | .error e c' => .error e c'
      | .ok none c' => .ok done.reverse c'
      | .ok (some property) c' => dialect.propertiesFrom (property :: done) c' := by
  rw [propertiesFrom]
  split <;> simp only [*]

theorem skips_propertiesFrom (dialect : Dialect) (done : List (Property α)) :
    Skips (dialect.propertiesFrom done) := by
  intro c d h
  rw [propertiesFrom_eq, propertiesFrom_eq, dialect.skips_property c d h]

theorem isWordChar_of_mem_keyword (keyword : Keyword) :
    ∀ x ∈ keyword.spelling.toList, Cursor.isWordChar x = true := by
  cases keyword <;> simp [Keyword.spelling, Cursor.isWordChar]

theorem isWordChar_of_mem_key (key : Key) :
    ∀ x ∈ key.spelling.toList, Cursor.isWordChar x = true := by
  cases key <;> simp [Key.spelling, Cursor.isWordChar]

theorem keyword_injective (keyword keyword' : Keyword) :
    keyword.spelling = keyword'.spelling → keyword = keyword' := by
  cases keyword <;> cases keyword' <;> decide

theorem key_injective (key key' : Key) : key.spelling = key'.spelling → key = key' := by
  cases key <;> cases key' <;> decide

/-- No word is found where none begins. -/
theorem wordOf_of_head?_ne {spelling : β → String} {keys : List β} {c : Cursor}
    (hne : ∀ key, (spelling key).toList ≠ [])
    (h : ∀ key, (spelling key).toList.head? ≠ c.rest.head?) :
    wordOf spelling keys c = .ok none c := by
  have hword : ∀ key, c.hasWord (spelling key) = false := by
    intro key
    have hhead := h key
    cases hlist : (spelling key).toList with
    | nil => exact absurd hlist (hne key)
    | cons x word =>
      rw [hlist] at hhead
      cases hrest : c.rest with
      | nil => simp [Cursor.hasWord, Cursor.hasText, hrest, hlist]
      | cons y rest =>
        have hxy : x ≠ y := by simpa [hrest] using hhead
        simp [Cursor.hasWord, Cursor.hasText, hrest, hlist, List.isPrefixOf, hxy]
  have hfind : (keys.find? fun key => c.hasWord (spelling key)) = none := by
    simp [hword]
  simp only [wordOf, hfind]

/-- The keywords begin with three letters only. -/
theorem wordOf_keyword_of_head?_ne (keywords : List Keyword) {c : Cursor}
    (h : ∀ x ∈ ['s', 'i', 'c'], c.rest.head? ≠ some x) :
    wordOf Keyword.spelling keywords c = .ok none c := by
  refine wordOf_of_head?_ne keyword_ne_nil fun keyword heq => ?_
  have hhead : ∃ x ∈ ['s', 'i', 'c'], keyword.spelling.toList.head? = some x := by
    cases keyword <;> simp [Keyword.spelling]
  obtain ⟨x, hx, hword⟩ := hhead
  exact h x hx (heq.symm.trans hword)

/-- The keys begin with four letters only. -/
theorem wordOf_key_of_head?_ne (keys : List Key) {c : Cursor}
    (h : ∀ x ∈ ['p', 's', 'd', 'f'], c.rest.head? ≠ some x) :
    wordOf Key.spelling keys c = .ok none c := by
  refine wordOf_of_head?_ne key_ne_nil fun key heq => ?_
  have hhead : ∃ x ∈ ['p', 's', 'd', 'f'], key.spelling.toList.head? = some x := by
    cases key <;> simp [Key.spelling]
  obtain ⟨x, hx, hword⟩ := hhead
  exact h x hx (heq.symm.trans hword)

theorem phrase_eq (dialect : Dialect) (screenSet : Bool) (c : Cursor) :
    dialect.phrase (α := α) screenSet c =
      if (c.skipBlanks true).rest = [] then .ok none (c.skipBlanks true)
      else (wordOf Keyword.spelling dialect.keywords >>= dialect.phraseOf screenSet)
        (c.skipBlanks true) := by
  show dialect.phraseUnless screenSet (c.skipBlanks true).rest.isEmpty (c.skipBlanks true) = _
  rw [phraseUnless]
  simp only [List.isEmpty_iff]
  split <;> rfl

/-- There is no phrase left only where the text ends. -/
theorem phrase_eq_none {dialect : Dialect} {screenSet : Bool} {c c' : Cursor}
    (h : dialect.phrase (α := α) screenSet c = .ok none c') :
    c' = c.skipBlanks true ∧ c'.rest = [] := by
  rw [phrase_eq] at h
  split at h
  · next hnil =>
    cases h
    exact ⟨rfl, hnil⟩
  · rw [bind_apply] at h
    split at h
    · next keyword d _ =>
      cases keyword with
      | none =>
        rw [phraseOf, bind_apply] at h
        split at h <;> cases h
      | some keyword =>
        rw [phraseOf, bind_apply] at h
        split at h <;> cases h
    · cases h

theorem skipped_apply {c : Cursor} {x : Char} {rest : List Char} (h : c.rest = x :: rest) :
    (skipped : Reader (Phrase β)) c = .ok (.skipped x c.line c.column) c.step := by
  simp only [skipped, bind_apply, place, advance, h, Cursor.step]
  rfl

/-- A character at which no keyword begins is skipped. -/
theorem phrase_of_not_mem (dialect : Dialect) (screenSet : Bool) {c : Cursor} {x : Char}
    {rest : List Char} (hrest : (c.skipBlanks true).rest = x :: rest) (hx : x ∉ ['s', 'i', 'c']) :
    dialect.phrase (α := α) screenSet c =
      .ok (some (.skipped x (c.skipBlanks true).line (c.skipBlanks true).column))
        (c.skipBlanks true).step := by
  have hword := wordOf_keyword_of_head?_ne dialect.keywords (c := c.skipBlanks true)
    fun y hy heq => hx (by simp_all)
  rw [phrase_eq, if_neg (by simp [hrest]), bind_apply, hword]
  show (skipped >>= fun phrase => pure (some phrase)) _ = _
  rw [bind_apply, skipped_apply hrest]
  rfl

theorem skips_phrase (dialect : Dialect) (screenSet : Bool) :
    Skips (dialect.phrase (α := α) screenSet) :=
  .skipBlanks_bind _

/-- Behind a keyword its directive is read. -/
theorem continues_phrase (dialect : Dialect) (screenSet : Bool) {keyword : Keyword}
    {rest : List Char} (hkeyword : keyword ∈ dialect.keywords)
    (hword : ∀ x, rest.head? = some x → Cursor.isWordChar x = false) :
    Continues (dialect.phrase (α := α) screenSet) keyword.spelling.toList
      (dialect.directive screenSet keyword >>= fun d => pure (some (.directive d))) rest := by
  have hne : keyword.spelling.toList ++ rest ≠ [] :=
    List.append_ne_nil_of_left_ne_nil (keyword_ne_nil keyword) _
  have hblank : Cursor.blankAhead true (keyword.spelling.toList ++ rest) = false := by
    cases keyword <;> simp [Keyword.spelling, Cursor.blankAhead]
  have htake : Takes (wordOf Keyword.spelling dialect.keywords) keyword.spelling.toList
      (some keyword) rest :=
    .wordOf isWordChar_of_mem_keyword keyword_injective hkeyword hword
  exact ((Takes.skipBlanks (by simp) hblank).continues _).nil_trans
    (((Takes.atEnd hne).continues _).nil_trans (htake.continues _))

end Dialect

end Slideshow
