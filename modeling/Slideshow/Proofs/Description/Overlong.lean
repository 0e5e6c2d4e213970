import Slideshow.Proofs.Description.Composition
import Slideshow.Proofs.Description.Magnitude

/-!
# Numbers too large to be counted with

With enough digits before its point a number comes out infinite, and then there is no integer that
it could stand for. A numbered image asks for that integer, so a description with such an image is
neither read nor found fault with.

## Main definitions

* `Reader.Breaks`: a reader fails on a text that is followed by another one.
* `Written.imageOfNines`: a description with as many nines as one likes in a row.

## Main statements

* `exact_wholeOf_of_long`: 343 digits without a zero in front are too many.
* `Reading.parse_image_of_infinite`: a numbered image with an infinite number is not read.
-/

namespace Slideshow

open Binary64 Reader

/-! ### Digits -/

theorem exact_ten : exact (Scalar.ofInt 10) = .ok 10 := by
  decide +kernel

/-- Each digit makes a number eight times as large at least. -/
theorem reaches_digits {digits : List Char} (hdigits : ∀ x ∈ digits, isDigit x = true) (k : Nat)
    {value : Float} (h : Reaches value (2 ^ k)) :
    Reaches (digits.foldl (fun value d => value * Scalar.ofInt 10 + digitValue d) value)
      (2 ^ (k + 3 * digits.length)) := by
  induction digits generalizing k value with
  | nil => exact h
  | cons d digits ih =>
    obtain ⟨hd, hdigits⟩ := List.forall_mem_cons.mp hdigits
    obtain ⟨v, hv, hnonneg, -⟩ := atMost_digitValue hd
    have hpow : (2 : Rat) ^ (k + 3) ≤ 2 ^ k * 10 := by
      have hpos : (0 : Rat) < 2 ^ k := by positivity
      rw [pow_add]
      linarith
    -- Powers of two are on the grid, so rounding a number above one does not take it below.
    have htimes : Reaches (value * Scalar.ofInt 10) (2 ^ (k + 3)) :=
      h.mul exact_ten (by norm_num) hpow (rounded_pow _) (by positivity)
    have hstep := ih hdigits (k + 3) (htimes.add hv hnonneg (rounded_pow _) (by positivity))
    have hcount : k + 3 + 3 * digits.length = k + 3 * (d :: digits).length := by
      rw [List.length_cons]
      omega
    rwa [hcount] at hstep

theorem reaches_one {d : Char} (hd : isDigit d = true) (hzero : d ≠ '0') :
    Reaches (Scalar.ofInt 0 * Scalar.ofInt 10 + digitValue d) (2 ^ 0) := by
  obtain ⟨n, hn, hrange⟩ : ∃ n : Nat, ((d.toNat : Int) - 48) = n ∧ 1 ≤ n ∧ n ≤ 9 := by
    obtain ⟨hlow, hhigh⟩ := toNat_of_isDigit hd
    have hne : d.toNat ≠ 48 := fun h => hzero (Char.toNat_inj.mp h)
    exact ⟨d.toNat - 48, by omega⟩
  have hexact : exact (Scalar.ofInt 0 * Scalar.ofInt 10 + Scalar.ofInt n) = .ok (n : Rat) := by
    obtain ⟨hlow, hhigh⟩ := hrange
    interval_cases n <;> decide +kernel
  rw [digitValue, hn]
  exact .inr ⟨n, hexact, by exact_mod_cast hrange.1⟩

/-- More than 342 digits without a zero in front are too many. -/
theorem exact_wholeOf_of_long {d : Char} {digits : List Char} (hd : isDigit d = true)
    (hzero : d ≠ '0') (hdigits : ∀ x ∈ digits, isDigit x = true) (h : 342 ≤ digits.length) :
    exact (wholeOf (d :: digits)) = .error .positiveInfinity := by
  refine (reaches_digits hdigits 0 (reaches_one hd hzero)).infinite ?_
  exact pow_le_pow_right₀ (by norm_num) (by omega)

/-! ### Readers -/

namespace Reader

variable {β γ : Type} {text text' rest : List Char} {e : Failure}

/-- With `text` and then `rest` ahead the reader fails. -/
def Breaks (r : Reader β) (text : List Char) (e : Failure) (rest : List Char) : Prop :=
  ∀ c, c.rest = text ++ rest → ∃ c', r c = .error e c'

theorem Breaks.bind {r : Reader β} (h : Breaks r text e rest) (f : β → Reader γ) :
    Breaks (r >>= f) text e rest := by
  intro c hc
  obtain ⟨c', hc'⟩ := h c hc
  exact ⟨c', by rw [bind_apply, hc']⟩

theorem Continues.breaks {r r' : Reader β} (h : Continues r text r' (text' ++ rest))
    (h' : Breaks r' text' e rest) : Breaks r (text ++ text') e rest := by
  intro c hc
  rw [List.append_assoc] at hc
  have hrest : (c.forward text.length).rest = text' ++ rest := by simp [hc]
  rw [h c hc]
  exact h' _ hrest

theorem Takes.bind_breaks {r : Reader β} {f : β → Reader γ} {b : β}
    (hr : Takes r text b (text' ++ rest)) (hf : Breaks (f b) text' e rest) :
    Breaks (r >>= f) (text ++ text') e rest :=
  (hr.continues f).breaks hf

theorem Takes.nil_bind_breaks {r : Reader β} {f : β → Reader γ} {b : β}
    (hr : Takes r [] b (text ++ rest)) (hf : Breaks (f b) text e rest) :
    Breaks (r >>= f) text e rest :=
  hr.bind_breaks hf

end Reader

variable {α : Type} [Scalar α] {kind : NonFinite} {rest : List Char}

/-- A number that is not finite stands for no integer. -/
theorem Written.breaks_integer {n : Written.Numeral} (hends : n.Ends rest)
    (hn : Scalar.truncate (n.value : α) = .error kind) :
    Breaks (integer α) n.text (.conversion kind) rest := by
  intro c hc
  rw [integer, bind_apply, Written.takes_number n hends c hc]
  show ∃ c', ofExcept (Scalar.truncate (n.value : α)) _ = .error _ c'
  rw [hn]
  exact ⟨_, rfl⟩

/-- Neither does the number of an image. -/
theorem Dialect.breaks_phrase (dialect : Dialect)
    (hkeywords : ∀ keyword, keyword ∈ dialect.keywords) {n : Written.Numeral} (hends : n.Ends rest)
    (hn : Scalar.truncate (n.value : α) = .error kind) :
    Breaks (dialect.phrase (α := α) true) (Keyword.image.spelling.toList ++ ([' '] ++ n.text))
      (.conversion kind) rest := by
  obtain ⟨x, more, htext, hx⟩ := Written.exists_text_eq_cons n
  -- The number starts with no quote, and so the image is taken for one with a number.
  have hcompact : Breaks (dialect.imageFrom (α := α) (some x)) n.text (.conversion kind) rest := by
    have hquote : some x ≠ some '"' := by
      rintro ⟨⟩
      revert hx
      decide
    rw [imageFrom, if_neg hquote]
    exact (Written.breaks_integer hends hn).bind _
  have himage : Breaks (dialect.directive (α := α) true .image) ([' '] ++ n.text)
      (.conversion kind) rest := by
    refine Takes.nil_bind_breaks (.require rfl) (Takes.bind_breaks (.skipBlanks (by simp) ?_)
      (Takes.nil_bind_breaks .peek ?_))
    · exact Written.blankAhead_numeral false n
    · rw [htext] at hcompact ⊢
      exact hcompact
  exact (dialect.continues_phrase true (hkeywords .image) (Written.avoids_cons rfl)).breaks
    (himage.bind _)

namespace Reading

/-- After a text that sets the screen comes an image whose number is not finite. The fault is no
fault in the grammar. -/
theorem parse_image_of_infinite (strictNewlines : Bool) {p : String}
    (hp : (ofText (α := α) { strictNewlines } p).failure = none)
    (hset : (ofText (α := α) { strictNewlines } p).draft.screen.isSome = true)
    {n : Written.Numeral} (hends : n.Ends rest)
    (hn : Scalar.truncate (n.value : α) = .error kind) :
    (parse { strictNewlines } (p ++ "\n" ++ String.ofList ("image ".toList ++ (n.text ++ rest))) :
      Except Failure (Draft α)) = .error (.conversion kind) := by
  let dialect : Dialect := { strictNewlines }
  let q := String.ofList ("image ".toList ++ (n.text ++ rest))
  have htext : Cursor.ofText (p ++ "\n" ++ q) = (Cursor.ofText p).extend ('\n' :: q.toList) := by
    simp [Cursor.ofText, Cursor.extend]
  have hq : (Cursor.ofText q).rest =
      Keyword.image.spelling.toList ++ ([' '] ++ n.text) ++ rest := by
    simp [q, Cursor.ofText, Keyword.spelling]
  obtain ⟨c', hphrase⟩ := dialect.breaks_phrase Keyword.mem_all hends hn _ hq
  let left : Draft α := (conclude dialect .initial (.ofText p)).1
  have hleft : left.screen.isSome = true := hset
  have hbelow : conclude dialect left (.ofText q) = (left, some (.conversion kind)) := by
    rw [conclude_eq, hleft, hphrase]
  rw [parse_eq_conclude, htext, conclude_extend dialect .initial _ _ hp, conclude_below, hbelow]
  rfl

end Reading

/-! ### Nines -/

namespace Written

/-- A nine with `n` nines behind it. -/
def nines (n : Nat) : Numeral where
  negative := false
  whole := '9' :: List.replicate n '9'
  places := none
  whole_ne_nil := List.cons_ne_nil _ _
  whole_digits := by
    rintro x (_ | ⟨_, hx⟩)
    · decide
    · rw [List.eq_of_mem_replicate hx]
      decide
  places_digits := by simp

/-- A description with an image of that number. -/
def imageOfNines (n : Nat) : String :=
  "screen = 1, 1" ++ "\n" ++
    String.ofList ("image ".toList ++ ((nines n).text ++ " 1, 1 1a 1a\n".toList))

theorem exact_nines {n : Nat} (h : 342 ≤ n) :
    exact ((nines n).value : Float) = .error .positiveInfinity :=
  exact_wholeOf_of_long (by decide) (by decide)
    (fun x hx => (nines n).whole_digits x (List.mem_cons_of_mem _ hx))
    (by rwa [List.length_replicate])

/-- All of its characters have one byte, and none is a carriage return. -/
theorem ascii_imageOfNines (n : Nat) :
    ∀ x ∈ (imageOfNines n).toList, x.toNat < 0x80 ∧ x ≠ '\r' := by
  have hhead : ∀ x ∈ ("screen = 1, 1" ++ "\n").toList ++ "image ".toList,
      x.toNat < 0x80 ∧ x ≠ '\r' := by
    simp
  have hnines : ∀ x ∈ (nines n).text, x.toNat < 0x80 ∧ x ≠ '\r' := by
    intro x hx
    have htext : (nines n).text = (nines n).whole := List.append_nil _
    have hdigit := (nines n).whole_digits x (htext ▸ hx)
    refine ⟨(toNat_of_isDigit hdigit).2.trans_lt (by decide), ?_⟩
    rintro rfl
    cases hdigit
  have htail : ∀ x ∈ " 1, 1 1a 1a\n".toList, x.toNat < 0x80 ∧ x ≠ '\r' := by
    simp
  rw [imageOfNines, String.toList_append, String.toList_ofList, ← List.append_assoc]
  exact List.forall_mem_append.mpr ⟨hhead, List.forall_mem_append.mpr ⟨hnines, htail⟩⟩

theorem parse_imageOfNines {n : Nat} (h : 342 ≤ n) :
    (Reading.parse { strictNewlines := false } (imageOfNines n) :
      Except Failure (Draft Float)) = .error (.conversion .positiveInfinity) := by
  refine Reading.parse_image_of_infinite false (by decide +kernel) (by decide +kernel)
    (avoids_cons rfl) ?_
  show (exact ((nines n).value : Float)).map _ = _
  rw [exact_nines h]
  rfl

end Written

end Slideshow
