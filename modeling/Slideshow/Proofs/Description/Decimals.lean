import Mathlib.Algebra.Field.Rat
import Mathlib.Algebra.Order.Ring.Rat
import Mathlib.Data.List.Induction
import Mathlib.Data.Nat.Digits.Defs
import Mathlib.Tactic.FieldSimp
import Mathlib.Tactic.Ring
import Slideshow.Proofs.Description.Values

/-!
# Exact decimal numbers

Read with exact numbers, a numeral is the decimal number that it denotes, however long it is. And a
text that begins with a numeral is read up to the end of the longest one.

## Main definitions

* `Written.unitsOf`, `Written.Numeral.denotation`: what digits and numerals denote.
* `Written.Numeral.IsLongest`: the longest numeral that a text begins with.
* `Written.BeginsNumber`: a text that begins with any.

## Main statements

* `Written.Numeral.value_eq_denotation`: summing up the digits one after the other is exact.
* `Written.Numeral.isLongest_iff_ends`: a numeral is the longest one where nothing continues it.
* `Written.number_denotes_longest`: which number is read, and when there is none.
-/

namespace Slideshow

namespace Written

open Reader

variable {text rest : List Char}

/-! ### What digits denote -/

/-- The integer that is written with some digits. -/
def unitsOf (digits : List Char) : Nat :=
  Nat.ofDigits 10 (digits.reverse.map fun d => d.toNat - '0'.toNat)

/-- The number that is written: all digits as one integer, divided by ten for each of those behind
the point, with the sign before it. -/
def Numeral.denotation (n : Numeral) : Rat :=
  let places := n.places.getD []
  let magnitude : Rat := unitsOf (n.whole ++ places) / 10 ^ places.length
  if n.negative then -magnitude else magnitude

theorem unitsOf_append (digits more : List Char) :
    unitsOf (digits ++ more) = unitsOf digits * 10 ^ more.length + unitsOf more := by
  rw [unitsOf, List.reverse_append, List.map_append, Nat.ofDigits_append]
  simp [unitsOf, Nat.mul_comm, Nat.add_comm]

theorem digitValue_eq {d : Char} (hd : isDigit d = true) : (digitValue d : Rat) = unitsOf [d] := by
  obtain ⟨hlow, -⟩ := toNat_of_isDigit hd
  have hunits : unitsOf [d] = d.toNat - 48 := Nat.ofDigits_singleton
  have hsub : ((d.toNat : Int) - 48) = (d.toNat - 48 : Nat) := by omega
  rw [digitValue, hunits, hsub]
  rfl

theorem unitsOf_concat (digits : List Char) (d : Char) :
    unitsOf (digits ++ [d]) = unitsOf digits * 10 + unitsOf [d] :=
  unitsOf_append digits [d]

theorem wholeOf_eq {digits : List Char} (hdigits : ∀ d ∈ digits, isDigit d = true) :
    (wholeOf digits : Rat) = unitsOf digits := by
  induction digits using List.reverseRecOn with
  | nil => rfl
  | append_singleton digits d ih =>
    have hd := digitValue_eq (hdigits d (by simp))
    have hrest := ih fun x hx => hdigits x (List.mem_append_left _ hx)
    rw [wholeOf, List.foldl_concat, unitsOf_concat, hd, ← wholeOf, hrest]
    push_cast
    rfl

/-- After some places the unit has shrunk by ten for each of them, and once more for the next. -/
theorem foldl_places {places : List Char} (hplaces : ∀ d ∈ places, isDigit d = true) (value : Rat) :
    places.foldl (fun (value, unit) d => (value + digitValue d * unit, unit * Scalar.tenth))
        (value, (Scalar.tenth : Rat)) =
      (value + unitsOf places / 10 ^ places.length, 1 / 10 ^ (places.length + 1)) := by
  have htenth : (Scalar.tenth : Rat) = 1 / 10 := rfl
  induction places using List.reverseRecOn with
  | nil => simp [unitsOf, htenth]
  | append_singleton places d ih =>
    have hd := digitValue_eq (hplaces d (by simp))
    have hrest := ih fun x hx => hplaces x (List.mem_append_left _ hx)
    rw [List.foldl_concat, hrest, hd, unitsOf_concat, List.length_append, List.length_singleton,
      htenth]
    push_cast
    refine Prod.ext ?_ ?_
    · simp only [pow_succ]
      field_simp
      ring
    · simp only [pow_succ]
      field_simp

/-- Summing up the digits one after the other is exact. -/
theorem Numeral.value_eq_denotation (n : Numeral) : (n.value : Rat) = n.denotation := by
  have hmagnitude : (addPlaces (wholeOf n.whole) (n.places.getD []) : Rat) =
      unitsOf (n.whole ++ n.places.getD []) / 10 ^ (n.places.getD []).length := by
    rw [addPlaces, foldl_places n.places_digits, wholeOf_eq n.whole_digits, unitsOf_append]
    push_cast
    rw [add_div, mul_div_assoc, div_self (by positivity), mul_one]
  rw [value, denotation, hmagnitude]

/-! ### The longest numeral -/

/-- The numeral is the longest one that the text begins with. -/
structure Numeral.IsLongest (n : Numeral) (text : List Char) : Prop where
  begins : n.text <+: text
  longest : ∀ m : Numeral, m.text <+: text → m.text.length ≤ n.text.length

/-- A digit begins the text, or a minus sign and a digit do. -/
def BeginsNumber (text : List Char) : Prop :=
  ∃ d rest, isDigit d = true ∧ (text = d :: rest ∨ text = '-' :: d :: rest)

/-- A run of characters in `p` does not go beyond another one that ends there. -/
theorem prefix_of_run {p : Char → Bool} {run run' : List Char} (hrun : ∀ x ∈ run, p x = true)
    (hrest : Avoids p rest) (h : run <+: run' ++ rest) : run <+: run' := by
  obtain hle | ⟨more, rfl⟩ := List.prefix_or_prefix_of_prefix h (List.prefix_append run' rest)
  · exact hle
  · rw [List.prefix_append_right_inj] at h
    cases more with
    | nil => simp
    | cons x more =>
      obtain ⟨rest', rfl⟩ := h
      have hx := hrun x (by simp)
      rw [hrest x rfl] at hx
      cases hx

namespace Numeral

variable {n m : Numeral}

/-- A numeral that can be continued is not the longest one. -/
theorem exists_text_eq_concat {x : Char} (h : ¬n.Ends (x :: rest)) :
    ∃ m : Numeral, m.text = n.text ++ [x] := by
  obtain ⟨negative, whole, places, hne, hwhole, hplaces⟩ := n
  have hx : isDigit x = true ∨ places = none ∧ x = '.' := by
    by_contra hnot
    refine h fun y hy => ?_
    cases hy
    cases places <;> simp_all
  obtain hdigit | ⟨rfl, rfl⟩ := hx
  · cases places with
    | none =>
      refine ⟨⟨negative, whole ++ [x], none, by simp, fun y hy => ?_, by simp⟩, ?_⟩
      · obtain hy | hy := List.mem_append.mp hy
        · exact hwhole y hy
        · exact List.mem_singleton.mp hy ▸ hdigit
      · simp [text, fraction]
    | some places =>
      refine ⟨⟨negative, whole, some (places ++ [x]), hne, hwhole, fun y hy => ?_⟩, ?_⟩
      · obtain hy | hy := List.mem_append.mp hy
        · exact hplaces y hy
        · exact List.mem_singleton.mp hy ▸ hdigit
      · simp [text, fraction]
  · exact ⟨⟨negative, whole, some [], hne, hwhole, by simp⟩, by simp [text, fraction]⟩

/-- A numeral begins with its minus sign, or with a digit. -/
theorem negative_eq_of_prefix (h : m.text <+: n.text ++ rest) : m.negative = n.negative := by
  obtain ⟨x, xs, hx, -⟩ := exists_text_eq_cons m
  have hhead : (n.text ++ rest).head? = m.text.head? := by
    rw [hx] at h ⊢
    obtain ⟨more, hmore⟩ := h
    rw [← hmore]
    rfl
  have hsign : ∀ k : Numeral, ∀ more, (k.text ++ more).head? = some '-' ↔ k.negative = true := by
    intro k more
    obtain ⟨d, ds, hds⟩ := List.exists_cons_of_ne_nil k.whole_ne_nil
    have hd : isDigit d = true := k.whole_digits d (by simp [hds])
    have hminus : d ≠ '-' := fun heq => by simp [heq, isDigit] at hd
    cases hk : k.negative <;> simp [text, sign, hk, hds, hminus]
  have hm := hsign m []
  rw [List.append_nil, ← hhead, hsign n rest] at hm
  exact Bool.eq_iff_iff.mpr hm.symm

/-- Where a numeral ends, no other one goes further. -/
theorem Ends.length_le (hn : n.Ends rest) (h : m.text <+: n.text ++ rest) :
    m.text.length ≤ n.text.length := by
  have hnegative := negative_eq_of_prefix h
  have hfraction : Avoids isDigit (fraction n.places ++ rest) := by
    intro x hx
    cases hplaces : n.places with
    | none =>
      rw [hplaces] at hx
      have := hn x hx
      simp_all
    | some places =>
      rw [hplaces] at hx
      cases hx
      decide
  rw [text, text, hnegative, List.append_assoc, List.append_assoc,
    List.prefix_append_right_inj] at h
  have hwhole : m.whole <+: n.whole :=
    prefix_of_run m.whole_digits hfraction ((List.prefix_append ..).trans h)
  rw [text, text, hnegative]
  simp only [List.length_append]
  cases hm : m.places with
  | none =>
    have hle := hwhole.length_le
    simp only [fraction, List.length_nil]
    omega
  | some places =>
    have hplaces := m.places_digits
    rw [hm] at h hplaces
    -- The point stands behind the same digits in both.
    have hwhole' : n.whole <+: m.whole := by
      obtain ⟨more, hmore⟩ := h
      have hpoint : Avoids isDigit ('.' :: (places ++ more)) := avoids_cons (by decide)
      refine prefix_of_run n.whole_digits hpoint ⟨fraction n.places ++ rest, ?_⟩
      rw [← hmore]
      simp [fraction]
    have heq : m.whole = n.whole := hwhole.eq_of_length_le hwhole'.length_le
    rw [heq, List.prefix_append_right_inj] at h
    cases hn' : n.places with
    | none =>
      obtain ⟨more, hmore⟩ := h
      rw [hn'] at hmore
      have hpoint := hn '.' (by rw [← List.nil_append rest]; exact hmore ▸ rfl)
      simp [hn'] at hpoint
    | some places' =>
      rw [hn'] at h
      have hdigit : Avoids isDigit rest := fun x hx => by simpa [hn'] using hn x hx
      have hprefix := prefix_of_run hplaces hdigit ((List.prefix_cons_inj '.').mp h)
      have hle : places.length ≤ places'.length := hprefix.length_le
      simp only [heq, fraction, List.length_cons]
      omega

/-- A numeral is the longest one exactly where nothing continues it. -/
theorem isLongest_iff_ends : n.IsLongest (n.text ++ rest) ↔ n.Ends rest := by
  constructor
  · intro h
    by_contra hends
    cases rest with
    | nil => exact hends fun x hx => nomatch hx
    | cons x rest =>
      obtain ⟨m, hm⟩ := exists_text_eq_concat hends
      have hle := h.longest m ⟨rest, by simp [hm]⟩
      rw [hm, List.length_append, List.length_singleton] at hle
      omega
  · intro h
    exact ⟨List.prefix_append .., fun m hm => h.length_le hm⟩

/-- A text that begins with a numeral begins with a longest one. -/
theorem exists_isLongest_append (n : Numeral) (rest : List Char) :
    ∃ m : Numeral, m.IsLongest (n.text ++ rest) := by
  induction rest generalizing n with
  | nil => exact ⟨n, isLongest_iff_ends.mpr fun x hx => nomatch hx⟩
  | cons x rest ih =>
    by_cases hends : n.Ends (x :: rest)
    · exact ⟨n, isLongest_iff_ends.mpr hends⟩
    · obtain ⟨m, hm⟩ := exists_text_eq_concat hends
      obtain ⟨longest, hlongest⟩ := ih m
      rw [hm, List.append_assoc] at hlongest
      exact ⟨longest, hlongest⟩

end Numeral

theorem BeginsNumber.exists_isLongest (h : BeginsNumber text) :
    ∃ n : Numeral, n.IsLongest text := by
  obtain ⟨d, rest, hd, htext⟩ := h
  have hdigits : ∀ x ∈ [d], isDigit x = true := by simpa using hd
  obtain rfl | rfl := htext
  · exact Numeral.exists_isLongest_append ⟨false, [d], none, by simp, hdigits, by simp⟩ rest
  · exact Numeral.exists_isLongest_append ⟨true, [d], none, by simp, hdigits, by simp⟩ rest

/-! ### Reading -/

/-- The cursor behind a minus sign, if there is one. -/
def behindSign (c : Cursor) : Cursor :=
  if c.rest.head? = some '-' then c.step else c

theorem number_of_isLongest {n : Numeral} {c : Cursor} (h : n.IsLongest c.rest) :
    (number : Reader Rat) c = .ok n.denotation (c.forward n.text.length) := by
  obtain ⟨rest, hrest⟩ := h.begins
  rw [← hrest, Numeral.isLongest_iff_ends] at h
  rw [takes_number n h c hrest.symm, n.value_eq_denotation]

theorem rest_behindSign (c : Cursor) :
    c.rest = (behindSign c).rest ∨ c.rest = '-' :: (behindSign c).rest := by
  unfold behindSign
  split
  · next hhead =>
    obtain ⟨rest, hrest⟩ := List.head?_eq_some_iff.mp hhead
    simp [hrest]
  · exact .inl rfl

/-- Without a digit the minus sign alone is taken. -/
theorem number_of_not_begins {c : Cursor} (h : ¬BeginsNumber c.rest) :
    (number : Reader Rat) c =
      .error (.grammar .noNumber (behindSign c).line (behindSign c).column) (behindSign c) := by
  have hsign : ∃ negative, accept '-' c = .ok negative (behindSign c) := by
    unfold accept behindSign
    split
    · exact ⟨true, rfl⟩
    · exact ⟨false, rfl⟩
  have hdigits : (behindSign c).rest.takeWhile isDigit = [] := by
    have hrest := rest_behindSign c
    cases hcons : (behindSign c).rest with
    | nil => rfl
    | cons x rest =>
      rw [hcons] at hrest
      have hx : isDigit x ≠ true := fun hdigit => h ⟨x, rest, hdigit, hrest⟩
      exact List.takeWhile_cons_of_neg hx
  obtain ⟨negative, hsign⟩ := hsign
  rw [number, bind_apply, hsign]
  show (span isDigit >>= _) (behindSign c) = _
  rw [bind_apply, span, hdigits]
  rfl

/-- Decimal numbers are read exactly. With exact numbers there is something to read if and only if
the text ahead begins with a digit, or with a minus sign and a digit. Then the longest numeral is
taken, and what it denotes is answered; otherwise the minus sign is taken, and a number is missed
behind it. Hence a numeral of any length is read as what it denotes, and whatever does not continue
it is left ahead. -/
theorem number_denotes_longest (c : Cursor) :
    ((∃ x c', (number : Reader Rat) c = .ok x c') ↔ BeginsNumber c.rest) ∧
      (∀ x c', (number : Reader Rat) c = .ok x c' →
        ∃ n : Numeral, n.IsLongest c.rest ∧ x = n.denotation ∧ c' = c.forward n.text.length) ∧
      (¬BeginsNumber c.rest → (number : Reader Rat) c =
        .error (.grammar .noNumber (behindSign c).line (behindSign c).column) (behindSign c)) ∧
      ∀ (n : Numeral) (rest : List Char), c.rest = n.text ++ rest → n.Ends rest →
        (number : Reader Rat) c = .ok n.denotation (c.forward n.text.length) ∧
          (c.forward n.text.length).rest = rest := by
  have hbegins : ∀ x c', (number : Reader Rat) c = .ok x c' → BeginsNumber c.rest := by
    intro x c' hread
    by_contra hnot
    rw [number_of_not_begins hnot] at hread
    cases hread
  refine ⟨⟨?_, ?_⟩, ?_, number_of_not_begins, ?_⟩
  · rintro ⟨x, c', hread⟩
    exact hbegins x c' hread
  · intro h
    obtain ⟨n, hn⟩ := h.exists_isLongest
    exact ⟨_, _, number_of_isLongest hn⟩
  · intro x c' hread
    obtain ⟨n, hn⟩ := (hbegins x c' hread).exists_isLongest
    rw [number_of_isLongest hn] at hread
    cases hread
    exact ⟨n, hn, rfl, rfl⟩
  · intro n rest hrest hends
    have hn : n.IsLongest c.rest := hrest ▸ Numeral.isLongest_iff_ends.mpr hends
    exact ⟨number_of_isLongest hn, by simp [hrest]⟩

/-- A second point is left ahead, and so is what follows a minus sign if it is no digit. -/
theorem number_denotes_longest_points :
    (number : Reader Rat) (.ofText "-0.25.5") = .ok (-1 / 4) ⟨['.', '5'], 5, 1, 6⟩ ∧
      (number : Reader Rat) (.ofText "-.5") =
        .error (.grammar .noNumber 1 2) ⟨['.', '5'], 1, 1, 2⟩ := by
  let n : Numeral :=
    ⟨true, ['0'], some ['2', '5'], by simp, by simp [isDigit], by simp [isDigit]⟩
  have hquarter : n.denotation = -1 / 4 := by
    decide +kernel
  have hends : n.Ends ['.', '5'] := by
    intro x hx
    cases hx
    rfl
  have hnot : ¬BeginsNumber (Cursor.ofText "-.5").rest := by
    rintro ⟨d, rest, hd, htext | htext⟩ <;> cases htext <;> cases hd
  obtain ⟨-, -, -, hread⟩ := number_denotes_longest (.ofText "-0.25.5")
  obtain ⟨-, -, hfail, -⟩ := number_denotes_longest (.ofText "-.5")
  refine ⟨?_, hfail hnot⟩
  rw [(hread n ['.', '5'] rfl hends).1, hquarter]
  rfl

end Written

end Slideshow
