import Slideshow.Cursor.Value
import Slideshow.Proofs.Cursor.Taking

/-!
# What a reader has taken

Conversely to `Reader.Takes`: which text lies between two cursors if a reader has come from one to
the other, and what it leaves ahead.

## Main definitions

* `Cursor.Took`: a text lies between two cursors.

* `Reader.equals`: an equals sign with the spaces around it.

## Main statements

* `Reader.bind_eq_ok`: a sequence succeeds if its parts do, one after the other.
* `Reader.took_span`, `Reader.took_wordOf`: a run and a word end where nothing continues them.
-/

namespace Slideshow

namespace Cursor

/-- `text` lies between two cursors. -/
structure Took (text : List Char) (c c' : Cursor) : Prop where
  rest : c.rest = text ++ c'.rest
  forward : c' = c.forward text.length

theorem Took.nil (c : Cursor) : Took [] c c :=
  ⟨rfl, rfl⟩

theorem Took.append {text text' : List Char} {c c' c'' : Cursor} (h : Took text c c')
    (h' : Took text' c' c'') : Took (text ++ text') c c'' where
  rest := by rw [h.rest, h'.rest, List.append_assoc]
  forward := by rw [h'.forward, h.forward, List.length_append, forward_add]

theorem Took.of_rest {text rest : List Char} {c : Cursor} (h : c.rest = text ++ rest) :
    Took text c (c.forward text.length) where
  rest := by rw [forward_rest, h, List.drop_left]
  forward := rfl

theorem Took.cons {x : Char} {text : List Char} {c c' : Cursor} (h : c.rest.head? = some x)
    (h' : Took text c.step c') : Took (x :: text) c c' := by
  obtain ⟨rest, hrest⟩ := List.head?_eq_some_iff.mp h
  have hx : Took [x] c c.step := .of_rest hrest
  exact hx.append h'

theorem hasWord_iff {word : String} {c : Cursor} : c.hasWord word = true ↔
    ∃ rest, c.rest = word.toList ++ rest ∧ ∀ x, rest.head? = some x → isWordChar x = false := by
  rw [hasWord, Bool.and_eq_true_iff, hasText_iff]
  constructor
  · rintro ⟨⟨rest, hrest⟩, hend⟩
    refine ⟨rest, hrest.symm, fun x hx => ?_⟩
    rw [← hrest, List.drop_left, hx] at hend
    simpa using hend
  · rintro ⟨rest, hrest, hend⟩
    refine ⟨⟨rest, hrest.symm⟩, ?_⟩
    rw [hrest, List.drop_left]
    cases hx : rest.head? with
    | none => rfl
    | some x => simp [hend x hx]

end Cursor

open Cursor

namespace Reader

variable {β γ : Type} {c c' : Cursor}

theorem bind_eq_ok {r : Reader β} {f : β → Reader γ} {b : γ} (h : (r >>= f) c = .ok b c') :
    ∃ a d, r c = .ok a d ∧ f a d = .ok b c' := by
  rw [bind_apply] at h
  cases hr : r c with
  | error e d => rw [hr] at h; cases h
  | ok a d => rw [hr] at h; exact ⟨a, d, rfl, h⟩

theorem require_bind_eq_ok {holds : Bool} {fault : Fault} {f : Unit → Reader γ} {b : γ}
    (h : (require holds fault >>= f) c = .ok b c') : holds = true ∧ f () c = .ok b c' := by
  cases holds with
  | true => exact ⟨rfl, h⟩
  | false => cases h

theorem took_expect {word : String} {u : Unit} (h : expect word c = .ok u c') :
    Took word.toList c c' := by
  unfold expect at h
  split at h
  · next htext =>
    cases h
    obtain ⟨rest, hrest⟩ := hasText_iff.mp htext
    exact .of_rest hrest.symm
  · cases h

theorem took_accept {x : Char} {b : Bool} (h : accept x c = .ok b c') :
    b = true ∧ Took [x] c c' ∨ b = false ∧ c' = c ∧ c.rest.head? ≠ some x := by
  unfold accept at h
  split at h
  · next hhead =>
    cases h
    exact .inl ⟨rfl, .cons hhead (.nil _)⟩
  · next hhead =>
    cases h
    exact .inr ⟨rfl, rfl, hhead⟩

theorem took_advance {x : Char} (h : advance c = .ok x c') : Took [x] c c' := by
  unfold advance at h
  split at h
  · cases h
  · next x rest hrest =>
    cases h
    have hstep : c.past x rest = c.step := by rw [step, hrest]
    rw [hstep]
    exact .cons (by rw [hrest]; rfl) (.nil _)

/-- A run is as long as can be. -/
theorem took_span {p : Char → Bool} {run : List Char} (h : span p c = .ok run c') :
    Took run c c' ∧ (∀ x ∈ run, p x = true) ∧ ∀ x, c'.rest.head? = some x → p x = false := by
  cases h
  have htook := Took.of_rest (List.takeWhile_append_dropWhile (p := p) (l := c.rest)).symm
  refine ⟨htook, fun x hx => List.all_eq_true.mp List.all_takeWhile x hx, fun x hx => ?_⟩
  have hdrop : (c.forward (c.rest.takeWhile p).length).rest = c.rest.dropWhile p :=
    List.append_cancel_left (htook.rest.symm.trans List.takeWhile_append_dropWhile.symm)
  rw [hdrop] at hx
  have hnot := List.head?_dropWhile_not p c.rest
  rw [hx] at hnot
  exact hnot

theorem took_wordOf {spelling : β → String} {keys : List β} {key : β}
    (h : wordOf spelling keys c = .ok (some key) c') :
    Took (spelling key).toList c c' ∧ ∀ x, c'.rest.head? = some x → isWordChar x = false := by
  unfold wordOf at h
  split at h
  · next key hfind =>
    cases h
    have hword : c.hasWord (spelling key) = true := by simpa using List.find?_some hfind
    obtain ⟨rest, hrest, hend⟩ := hasWord_iff.mp hword
    have htook := Took.of_rest hrest
    refine ⟨htook, ?_⟩
    rwa [List.append_cancel_left (htook.rest.symm.trans hrest)]
  · cases h

theorem wordOf_eq_none {spelling : β → String} {keys : List β}
    (h : wordOf spelling keys c = .ok none c') :
    c' = c ∧ ∀ key ∈ keys, c.hasWord (spelling key) = false := by
  unfold wordOf at h
  split at h
  · cases h
  · next hfind =>
    cases h
    exact ⟨rfl, fun key hkey => by simpa using List.find?_eq_none.mp hfind key hkey⟩

/-! ### Assignments -/

/-- Takes an equals sign and the spaces around it. -/
def equals : Reader Unit := do
  skipBlanks false
  expect "="
  skipBlanks false

theorem assigned_eq (value : Reader β) : assigned value = equals >>= fun _ => value >>= fun b =>
    skipBlanks false >>= fun _ => pure b := by
  simp only [assigned, equals, bind_assoc]

end Reader

end Slideshow
