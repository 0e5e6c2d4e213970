import Slideshow.Proofs.Cursor.Coordinates
import Slideshow.Proofs.Cursor.Displacement
import Slideshow.Proofs.Cursor.Taking
import Slideshow.Proofs.Description.Atomicity

/-!
# The order of words

Words are looked for one after the other, and some of them begin with others. A word that is taken
is not continued, though, so at every place there is one word at most, and it does not matter which
of them is tried first.

## Main definitions

* `Dialect.Reordered`: two dialects that try the same words, each in its own order.

## Main statements

* `Reader.word_cases`: a word is taken as a whole or not at all.
* `Reader.wordOf_cons`, `Reader.wordOf_eq_of_perm`: words are tried in their order, which does not
  matter.
* `Dialect.Reordered.phrase`, `Dialect.Reordered.run`: nor does it matter to what is put together
  from words.
* `Interpreter.words_never_compete`: what a description amounts to does not depend on the order.
-/

namespace Slideshow

namespace Reader

variable {β : Type}

/-- A word is taken, all of it and nothing else, or the cursor stays. The text does not end in a
word that is taken. -/
theorem word_cases (text : String) (c : Cursor) :
    word text c = .ok false c ∨ ∃ c', word text c = .ok true c' ∧
      advanceBy text.toList.length c = .ok () c' ∧
      c'.position = c.position + text.toList.length := by
  unfold word
  split
  · next hword =>
    have htext := (Bool.and_eq_true_iff.mp hword).1
    have hle := (Cursor.hasText_iff.mp htext).length_le
    exact .inr ⟨_, rfl, advanceBy_eq_ok hle, Cursor.position_forward hle⟩
  · exact .inl rfl

theorem hasWord_of_word {text : String} {c c' : Cursor} (h : word text c = .ok true c') :
    c.hasWord text = true := by
  unfold word at h
  split at h
  · assumption
  · cases h

/-- Words are tried one after the other, up to the first that is taken. -/
theorem wordOf_cons (spelling : β → String) (key : β) (keys : List β) :
    wordOf spelling (key :: keys) = word (spelling key) >>= fun taken =>
      if taken then pure (some key) else wordOf spelling keys := by
  funext c
  rw [bind_apply, word, wordOf, List.find?_cons]
  cases h : c.hasWord (spelling key) <;> rfl

/-- Of two words one at most lies ahead, and so either of them may be tried first. -/
theorem wordOf_swap {spelling : β → String}
    (hspelling : ∀ key, ∀ x ∈ (spelling key).toList, Cursor.isWordChar x = true)
    (hinj : ∀ key key', spelling key = spelling key' → key = key') (key key' : β)
    (keys : List β) :
    wordOf spelling (key :: key' :: keys) = wordOf spelling (key' :: key :: keys) := by
  funext c
  simp only [wordOf_cons]
  cases h : c.hasWord (spelling key) <;> cases h' : c.hasWord (spelling key')
  case true.true =>
    have hkey := hinj _ _ (Cursor.eq_of_hasWord (hspelling key) (hspelling key') h h')
    subst hkey
    rfl
  all_goals simp [bind_apply, word, h, h', pure, EStateM.pure]

/-- It does not matter in which order words are tried. -/
theorem wordOf_eq_of_perm {spelling : β → String}
    (hspelling : ∀ key, ∀ x ∈ (spelling key).toList, Cursor.isWordChar x = true)
    (hinj : ∀ key key', spelling key = spelling key' → key = key') {keys keys' : List β}
    (h : keys.Perm keys') : wordOf spelling keys = wordOf spelling keys' := by
  induction h with
  | nil => rfl
  | cons key _ ih => rw [wordOf_cons, wordOf_cons, ih]
  | swap key key' keys => exact wordOf_swap hspelling hinj key' key keys
  | trans _ _ ih ih' => exact ih.trans ih'

end Reader

namespace Dialect

open Reader

variable {α : Type} [Scalar α] {d d' : Dialect}

/-- The dialects differ in nothing but the order in which they try their words. -/
structure Reordered (d d' : Dialect) : Prop where
  strictNewlines : d.strictNewlines = d'.strictNewlines
  keywords : d.keywords.Perm d'.keywords
  keys : d.keys.Perm d'.keys

namespace Reordered

theorem endAssignment (h : Reordered d d') : d.endAssignment = d'.endAssignment := by
  funext inBlock c
  rw [Dialect.endAssignment, Dialect.endAssignment, h.strictNewlines]

theorem propertyOf (h : Reordered d d') (key : Option Key) :
    (d.propertyOf key : Reader (Option (Property α))) = d'.propertyOf key := by
  cases key with
  | none => rfl
  | some key => rw [Dialect.propertyOf, Dialect.propertyOf, h.endAssignment]

theorem property (h : Reordered d d') :
    (d.property : Reader (Option (Property α))) = d'.property := by
  have hword := wordOf_eq_of_perm isWordChar_of_mem_key key_injective h.keys
  simp only [Dialect.property, propertyUnless, hword, funext h.propertyOf]

theorem propertiesFrom (h : Reordered d d') (done : List (Property α)) :
    d.propertiesFrom done = d'.propertiesFrom done := by
  funext c
  induction hn : c.rest.length using Nat.strongRecOn generalizing done c with
  | ind n ih =>
    rw [propertiesFrom_eq, propertiesFrom_eq d', h.property]
    cases hproperty : d'.property (α := α) c with
    | error e c' => rfl
    | ok property c' =>
      cases property with
      | none => rfl
      | some property =>
        have hlt : c'.rest.length < n := hn ▸ d'.advances_property _ _ _ hproperty rfl
        exact ih _ hlt _ _ rfl

theorem block (h : Reordered d d') : (d.block : Reader (List (Property α))) = d'.block := by
  simp only [Dialect.block, h.propertiesFrom]

theorem framed (h : Reordered d d') (make : String → List (Property α) → Directive α) :
    d.framed make = d'.framed make := by
  simp only [Dialect.framed, h.block]

theorem directive (h : Reordered d d') (screenSet : Bool) (keyword : Keyword) :
    (d.directive screenSet keyword : Reader (Directive α)) = d'.directive screenSet keyword := by
  cases keyword <;>
    simp only [Dialect.directive, Dialect.screen, Dialect.directory, Dialect.imageFrom, h.framed,
      h.endAssignment]

theorem phraseOf (h : Reordered d d') (screenSet : Bool) (keyword : Option Keyword) :
    (d.phraseOf screenSet keyword : Reader (Option (Phrase α))) =
      d'.phraseOf screenSet keyword := by
  cases keyword with
  | none => rfl
  | some keyword => rw [Dialect.phraseOf, Dialect.phraseOf, h.directive]

theorem phrase (h : Reordered d d') (screenSet : Bool) :
    (d.phrase screenSet : Reader (Option (Phrase α))) = d'.phrase screenSet := by
  have hword := wordOf_eq_of_perm isWordChar_of_mem_keyword keyword_injective h.keywords
  simp only [Dialect.phrase, phraseUnless, hword, funext (h.phraseOf screenSet)]

/-- All phrases are the same. -/
theorem onward (h : Reordered d d') (draft : Draft α) (c : Cursor) :
    Reading.onward d draft c = Reading.onward d' draft c := by
  induction draft, c using Reading.induction (α := α) d' with
  | step draft c ih =>
    rw [Reading.onward_eq, Reading.onward_eq d', h.phrase]
    cases hphrase : d'.phrase (α := α) draft.screen.isSome c with
    | error e c' => rfl
    | ok phrase c' =>
      cases phrase with
      | none => rfl
      | some phrase => simp only [ih phrase c' hphrase]

/-- So are all passes, wherever they start. -/
theorem run (h : Reordered d d') (p : Progress α) :
    Interpreter.run d p = Interpreter.run d' p := by
  have hpass : (Interpreter.pass d : Interpreter α Bool) = Interpreter.pass d' := by
    simp only [Interpreter.pass_eq, h.phrase]
  induction hn : p.cursor.rest.length using Nat.strongRecOn generalizing p with
  | ind n ih =>
    rw [Interpreter.run_eq, Interpreter.run_eq d', hpass]
    cases hp : Interpreter.pass d' p with
    | error e p' => rfl
    | ok more p' =>
      cases more with
      | false => rfl
      | true => exact ih _ (hn ▸ Interpreter.length_lt_of_pass hp) _ rfl

end Reordered

end Dialect

namespace Interpreter

open Reader

variable {α : Type} [Scalar α]

/-- At no place are two different words of letters and digits taken. A word that is taken moves the
cursor over its characters, all of which are there, and one that is not leaves the cursor as it was.
So in whatever order keywords and keys are tried, the same phrases are read, and the same comes of
them. -/
theorem words_never_compete (strictNewlines : Bool) :
    (∀ (c c₁ c₂ : Cursor) (text text' : String),
      (∀ x ∈ text.toList, Cursor.isWordChar x = true) →
      (∀ x ∈ text'.toList, Cursor.isWordChar x = true) → text ≠ text' →
      word text c = .ok true c₁ → word text' c ≠ .ok true c₂) ∧
    (∀ (c : Cursor) (text : String), word text c = .ok false c ∨
      ∃ c', word text c = .ok true c' ∧ advanceBy text.toList.length c = .ok () c' ∧
        c'.position = c.position + text.toList.length) ∧
    ∀ (keywords : List Keyword) (keys : List Key), keywords.Perm Keyword.all →
      keys.Perm Key.all → ∀ (draft : Draft α) (text : String),
        interpret { strictNewlines, keywords, keys } draft text =
          interpret { strictNewlines } draft text ∧
        Reading.resume { strictNewlines, keywords, keys } draft text =
          Reading.resume { strictNewlines } draft text := by
  refine ⟨?_, fun c text => word_cases text c, fun keywords keys hkeywords hkeys draft text => ?_⟩
  · intro c c₁ c₂ text text' htext htext' hne h h'
    exact hne (Cursor.eq_of_hasWord htext htext' (hasWord_of_word h) (hasWord_of_word h'))
  · have h : Dialect.Reordered { strictNewlines, keywords, keys } { strictNewlines } :=
      ⟨rfl, hkeywords, hkeys⟩
    exact ⟨h.run _, h.onward draft _⟩

/-- Where a directory is set, an image may be looked for before it, and a start before a size. -/
theorem words_never_compete_reversed :
    let c := Cursor.ofText "imageDir = \"a/\""
    let text := "screen = 4, 2\nimageDir = \"a/\"\nimage \"b\" { start = 3 size = 4, 2 }"
    word "imageDir" c = .ok true (c.forward 8) ∧ (∀ c', word "image" c ≠ .ok true c') ∧
      Keyword.all.reverse.Perm Keyword.all ∧ Key.all.reverse.Perm Key.all ∧
      (Reading.resume ⟨false, Keyword.all.reverse, Key.all.reverse⟩ (.initial : Draft Rat)
        text).draft.timeline.declared = [⟨"a/b", ⟨0, 0⟩, ⟨1, 1⟩, 3, 5, 1, 1⟩] := by
  intro c text
  obtain ⟨hunique, -, horder⟩ := words_never_compete (α := Rat) false
  have hword : word "imageDir" c = .ok true (c.forward 8) := if_pos (by decide)
  have hkeywords := Keyword.all.reverse_perm
  have hkeys := Key.all.reverse_perm
  refine ⟨hword, fun c' => ?_, hkeywords, hkeys, ?_⟩
  · exact hunique c _ c' "imageDir" "image" (Dialect.isWordChar_of_mem_keyword .imageDir)
      (Dialect.isWordChar_of_mem_keyword .image) (by decide) hword
  · rw [(horder _ _ hkeywords hkeys .initial text).2]
    decide +kernel

end Interpreter

end Slideshow
