import Mathlib.Tactic.IntervalCases
import Slideshow.Proofs.Cursor.Coordinates
import Slideshow.Proofs.Description.Derivation
import Slideshow.Proofs.Number.Bounds

/-!
# Numbers that can be counted with

A number in a text is summed up in binary64 and may come out infinite, and then it has no integer
part. That takes more than 308 digits before the point; the digits behind it do no harm, however
many there are.

## Main definitions

* `LongRun`: a text with more digits in a row than a finite number needs.
* `Reader.Counts`: a reader that fails for want of an integer at such a run only.

## Main statements

* `Numeral.exists_exact_value`: a short number is finite.
* `Dialect.counts_phrase`, `Reading.longRun_of_conversion`: hence descriptions without long runs
  have all their integers.
-/

namespace Slideshow

open Binary64 Reader

/-! ### Digits -/

theorem atMost_ofInt {n : Nat} (h : n ≤ 10) : AtMost (Scalar.ofInt n) n := by
  refine ⟨n, ?_, Nat.cast_nonneg n, le_rfl⟩
  interval_cases n <;> decide +kernel

theorem atMost_digitValue {d : Char} (hd : isDigit d = true) : AtMost (digitValue d) 9 := by
  obtain ⟨hlow, hhigh⟩ := toNat_of_isDigit hd
  obtain ⟨n, hn⟩ : ∃ n : Nat, ((d.toNat : Int) - 48) = n := ⟨d.toNat - 48, by omega⟩
  rw [digitValue, hn]
  exact (atMost_ofInt (by omega)).mono (by exact_mod_cast (by omega : n ≤ 9))

/-- A bound on the number that some digits stand for. Rounding may add a little each time. -/
def wholeBound (n : Nat) : Rat :=
  10 ^ n * (1 + n / 1000) - 1

theorem wholeBound_nonneg (n : Nat) : 0 ≤ wholeBound n := by
  have hpow : (1 : Rat) ≤ 10 ^ n := one_le_pow₀ (by norm_num)
  have hshare : (0 : Rat) ≤ 10 ^ n * (n / 1000) := by positivity
  rw [wholeBound]
  linarith

theorem wholeBound_succ (n : Nat) : wholeBound (n + 1) = 10 * wholeBound n + 9 + 10 ^ n / 100 := by
  rw [wholeBound, wholeBound, pow_succ]
  push_cast
  ring

theorem wholeBound_le_pow {n : Nat} (h : n ≤ 308) : wholeBound n ≤ 1308 / 1000 * 10 ^ n - 1 := by
  have hpow : (0 : Rat) < 10 ^ n := by positivity
  have hshare : (n : Rat) ≤ 308 := by exact_mod_cast h
  have := mul_le_mul_of_nonneg_left hshare hpow.le
  rw [wholeBound]
  linarith

theorem wholeBound_le_ceiling {n : Nat} (h : n ≤ 308) : wholeBound n ≤ ceiling := by
  have hpow : (10 : Rat) ^ n ≤ 10 ^ 308 := pow_le_pow_right₀ (by norm_num) h
  have hmax : 1308 * (10 : Rat) ^ 308 ≤ 1000 * ceiling := by
    obtain ⟨p, hp⟩ : ∃ p : Nat, 10 ^ 308 = p := ⟨_, rfl⟩
    obtain ⟨t, ht⟩ : ∃ t : Nat, 2 ^ 971 = t := ⟨_, rfl⟩
    have hnat : 1308 * p ≤ 1000 * (7 * 2 ^ 50 * t) := by subst hp ht; decide +kernel
    have hpow : (10 : Rat) ^ 308 = p := by rw [← hp, Nat.cast_pow]; rfl
    have hunit : topUnit = t := by rw [topUnit, ← ht, Nat.cast_pow]; exact zpow_natCast 2 971
    rw [hpow, ceiling, hunit]
    exact_mod_cast hnat
  have hle := wholeBound_le_pow h
  generalize (10 : Rat) ^ 308 = p at hpow hmax
  linarith

theorem atMost_wholeOf {digits : List Char} (hdigits : ∀ x ∈ digits, isDigit x = true)
    (h : digits.length ≤ 308) : AtMost (wholeOf digits) (wholeBound digits.length) := by
  induction digits using List.reverseRecOn with
  | nil => exact ⟨0, by decide +kernel, le_rfl, by norm_num [wholeBound]⟩
  | append_singleton digits d ih =>
    rw [List.length_append, List.length_singleton] at h ⊢
    have hwhole := ih (fun x hx => hdigits x (List.mem_append_left _ hx)) (by omega)
    have hdigit := atMost_digitValue (hdigits d (by simp))
    have hnonneg := wholeBound_nonneg digits.length
    have hle := wholeBound_le_pow (n := digits.length) (by omega)
    have hpow : (1 : Rat) ≤ 10 ^ digits.length := one_le_pow₀ (by norm_num)
    have hfinite : wholeBound (digits.length + 1) < 2 ^ 1024 :=
      (wholeBound_le_ceiling h).trans_lt ceiling_lt
    have hsucc := wholeBound_succ digits.length
    -- Both roundings together add less than a hundredth of the power of ten.
    have htimes := rounded_le (mul_nonneg hnonneg (by norm_num : (0 : Rat) ≤ 10))
    have hplus := rounded_le (x := wholeBound digits.length * 10 +
      wholeBound digits.length * 10 / 2 ^ 53 + 1 / 1000 + 9) (by positivity)
    rw [wholeOf, List.foldl_concat]
    refine AtMost.add (AtMost.mul hwhole (atMost_ofInt (n := 10) le_rfl) htimes ?_) hdigit
      (hplus.trans ?_) hfinite
    · refine lt_of_le_of_lt ?_ hfinite
      linarith only [hsucc, hnonneg, hle, hpow]
    · linarith only [hsucc, hnonneg, hle, hpow]

/-- What is added for a digit behind the point is less than one. -/
theorem atMost_place {d : Char} {unit : Float} (hd : isDigit d = true)
    (hunit : AtMost unit (1 / 9)) : AtMost (digitValue d * unit) 1 := by
  have hone : rounded 1 = 1 := rounded_of_exact (a := Scalar.ofInt 1) (by decide +kernel)
  refine AtMost.mul (atMost_digitValue hd) hunit ?_ one_lt_limit
  norm_num [hone]

/-- The digits behind a point add one to a number at most, and so nothing to a very large one. -/
theorem atMost_addPlaces {value : Float} {places : List Char}
    (hplaces : ∀ x ∈ places, isDigit x = true) (h : AtMost value ceiling) :
    AtMost (addPlaces value places) ceiling := by
  have htenth : exact (Scalar.tenth : Float) = .ok (3602879701896397 / 36028797018963968) := by
    decide +kernel
  have hround := rounded_of_exact htenth
  -- The unit stays below a tenth, as it is given in binary.
  suffices hfold : ∀ unit : Float, AtMost unit (3602879701896397 / 36028797018963968) →
      AtMost (places.foldl (fun (value, unit) d =>
        (value + digitValue d * unit, unit * Scalar.tenth)) (value, unit)).1 ceiling from
    hfold Scalar.tenth ⟨_, htenth, by norm_num, le_rfl⟩
  induction places generalizing value with
  | nil => exact fun _ _ => h
  | cons d places ih =>
    intro unit hunit
    obtain ⟨hd, hplaces⟩ := List.forall_mem_cons.mp hplaces
    have hplace := atMost_place hd (hunit.mono (by norm_num))
    refine ih hplaces (AtMost.add h hplace rounded_ceiling_add_one.le ceiling_lt) _ ?_
    refine AtMost.mul hunit ⟨_, htenth, by norm_num, le_rfl⟩ ?_
      (lt_trans (by norm_num) one_lt_limit)
    exact (rounded_mono (by norm_num)).trans hround.le

/-- A short number is finite, however many digits there are behind the point. -/
theorem Written.Numeral.exists_exact_value (n : Written.Numeral) (h : n.whole.length ≤ 308) :
    ∃ v, Scalar.exact (n.value : Float) = .ok v := by
  have hwhole := (atMost_wholeOf n.whole_digits h).mono (wholeBound_le_ceiling h)
  obtain ⟨v, hv, -, -⟩ := atMost_addPlaces n.places_digits hwhole
  rw [Written.Numeral.value]
  cases n.negative with
  | false => exact ⟨v, hv⟩
  | true => exact ⟨-v, exact_neg hv⟩

/-! ### Readers -/

/-- A text with more digits in a row than a finite number needs before its point. -/
def LongRun (text : List Char) : Prop :=
  ∃ run, run <:+: text ∧ 308 < run.length ∧ ∀ x ∈ run, isDigit x = true

theorem LongRun.of_infix {text text' : List Char} (h : LongRun text) (htext : text <:+: text') :
    LongRun text' := by
  obtain ⟨run, hrun, hlong, hdigits⟩ := h
  exact ⟨run, hrun.trans htext, hlong, hdigits⟩

namespace Reader

variable {β γ : Type}

/-- The reader moves forward, and fails for want of an integer at a long run of digits only. -/
structure Counts (r : Reader β) : Prop where
  forward : Forward r
  longRun : ∀ {c kind c'}, r c = .error (.conversion kind) c' → LongRun c.rest

/-- What is ahead behind the reader was ahead before it. -/
theorem Forward.longRun {r : Reader β} (hr : Forward r) {c d : Cursor} {b : β}
    (hc : r c = .ok b d) (h : LongRun d.rest) : LongRun c.rest := by
  obtain ⟨n, hn⟩ := hr c
  rw [hc] at hn
  replace hn : d = c.forward n := hn
  have hrest : d.rest = c.rest.drop n := by rw [hn, Cursor.forward_rest]
  exact h.of_infix (hrest ▸ (List.drop_suffix n c.rest).isInfix)

theorem Counts.pure (b : β) : Counts (pure b) :=
  ⟨.pure b, fun h => nomatch h⟩

theorem Counts.bind {r : Reader β} {f : β → Reader γ} (hr : Counts r) (hf : ∀ b, Counts (f b)) :
    Counts (r >>= f) := by
  refine ⟨.bind hr.forward fun b => (hf b).forward, fun {c kind c'} h => ?_⟩
  rw [bind_apply] at h
  cases hc : r c with
  | error e d =>
    rw [hc] at h
    cases h
    exact hr.longRun hc
  | ok b d =>
    rw [hc] at h
    exact hr.forward.longRun hc ((hf b).longRun h)

/-- A reader that complains about a place does not fail for want of an integer. -/
theorem Counts.of_located {r : Reader β} (hforward : Forward r) (hlocated : Located r) :
    Counts r := by
  refine ⟨hforward, fun h => ?_⟩
  obtain ⟨fault, he⟩ := hlocated _ _ _ h
  cases he

theorem Counts.fail (fault : Fault) : Counts (fail fault : Reader β) :=
  .of_located (.fail fault) (.fail fault)

theorem Counts.require (holds : Bool) (fault : Fault) : Counts (require holds fault) :=
  .of_located (.require holds fault) (compositional_located.require holds fault)

theorem Counts.atEnd : Counts atEnd :=
  .of_located .atEnd compositional_located.atEnd

theorem Counts.place : Counts place :=
  ⟨.place, fun h => nomatch h⟩

theorem Counts.peek : Counts peek :=
  .of_located .peek compositional_located.peek

theorem Counts.skipBlanks (newlines : Bool) : Counts (skipBlanks newlines) :=
  .of_located (.skipBlanks newlines) (compositional_located.skipBlanks newlines)

theorem Counts.advance : Counts advance :=
  .of_located .advance .advance

theorem Counts.expect (text : String) : Counts (expect text) :=
  .of_located (.expect text) (.expect text)

theorem Counts.accept (x : Char) : Counts (accept x) :=
  .of_located (.accept x) (.accept x)

theorem Counts.wordOf (spelling : β → String) (keys : List β) :
    Counts (wordOf spelling keys) := by
  refine ⟨.wordOf spelling keys, fun {c kind c'} h => ?_⟩
  unfold Reader.wordOf at h
  split at h <;> cases h

theorem Counts.number : Counts (number : Reader Float) :=
  .of_located .number compositional_located.number

theorem Counts.vec : Counts (vec : Reader (Vec Float)) :=
  .of_located .vec compositional_located.vec

theorem Counts.quoted : Counts quoted :=
  .of_located .quoted compositional_located.quoted

theorem Counts.assigned {value : Reader β} (h : Counts value) : Counts (assigned value) :=
  .bind (.skipBlanks _) fun _ => .bind (.expect _) fun _ => .bind (.skipBlanks _) fun _ =>
    .bind h fun _ => .bind (.skipBlanks _) fun _ => .pure _

/-- The one reader that counts with a number that it reads. -/
theorem Counts.integer : Counts (integer Float) := by
  refine ⟨.integer, fun {c kind c'} h => ?_⟩
  rw [Reader.integer, bind_apply] at h
  cases hnumber : (Reader.number : Reader Float) c with
  | error e d =>
    rw [hnumber] at h
    cases h
    exact Counts.number.longRun hnumber
  | ok x d =>
    rw [hnumber] at h
    obtain ⟨n, htook, -, rfl⟩ := Grammar.derives_number hnumber
    have hlong : 308 < n.whole.length := by
      by_contra hshort
      obtain ⟨v, hv⟩ := n.exists_exact_value (by omega)
      simp only [Scalar.truncate, hv] at h
      cases h
    have hwhole : n.whole <:+: n.text :=
      ⟨Written.Numeral.sign n.negative, Written.Numeral.fraction n.places, List.append_assoc ..⟩
    exact ⟨n.whole, hwhole.trans ⟨[], d.rest, htook.rest.symm⟩, hlong, n.whole_digits⟩

end Reader

namespace Dialect

variable (dialect : Dialect)

theorem counts_endAssignment (inBlock : Bool) : Counts (dialect.endAssignment inBlock) := by
  refine ⟨dialect.forward_endAssignment inBlock, fun {c kind c'} h => ?_⟩
  unfold endAssignment at h
  split at h
  · cases h
  · exact (Counts.expect _).longRun h

theorem counts_endBlock : Counts endBlock :=
  Grammar.endBlock_eq { strictNewlines := true } ▸ counts_endAssignment _ false

theorem counts_value (key : Key) : Counts (value key : Reader (Property Float)) := by
  cases key
  case position => exact .bind (.assigned .vec) fun _ => .pure _
  case size => exact .bind (.assigned .vec) fun _ => .pure _
  all_goals exact .bind (.assigned .number) fun _ => .pure _

theorem counts_propertyOf (key : Option Key) :
    Counts (dialect.propertyOf key : Reader (Option (Property Float))) := by
  cases key with
  | none => exact .fail _
  | some key =>
    exact .bind (counts_value key) fun _ => .bind (dialect.counts_endAssignment _) fun _ => .pure _

theorem counts_propertyUnless (closed : Bool) :
    Counts (dialect.propertyUnless closed : Reader (Option (Property Float))) := by
  unfold propertyUnless
  split
  · exact .pure _
  · exact .bind (.wordOf _ _) dialect.counts_propertyOf

theorem counts_property : Counts (dialect.property : Reader (Option (Property Float))) :=
  .bind (.skipBlanks _) fun _ => .bind .atEnd fun _ => .bind (.require _ _) fun _ =>
    .bind (.accept _) dialect.counts_propertyUnless

theorem counts_propertiesFrom (done : List (Property Float)) :
    Counts (dialect.propertiesFrom done) := by
  refine ⟨dialect.forward_propertiesFrom done, fun {c kind c'} h => ?_⟩
  fun_induction dialect.propertiesFrom done c with
  | case1 done c e d hproperty =>
    cases h
    exact dialect.counts_property.longRun hproperty
  | case2 => cases h
  | case3 done c property d hproperty ih =>
    exact dialect.forward_property.longRun hproperty (ih h)

theorem counts_block : Counts (dialect.block : Reader (List (Property Float))) :=
  .bind (.skipBlanks _) fun _ => .bind (.expect _) fun _ =>
    .bind (dialect.counts_propertiesFrom _) fun _ => .bind (.skipBlanks _) fun _ =>
      .bind counts_endBlock fun _ => .pure _

theorem counts_cell : Counts (cell Float) :=
  .bind .integer fun _ => .bind .advance fun _ => .pure _

theorem counts_screen (screenSet : Bool) :
    Counts (dialect.screen screenSet : Reader (Directive Float)) :=
  .bind (.require _ _) fun _ => .bind (.assigned .vec) fun _ => .bind (.require _ _) fun _ =>
    .bind (dialect.counts_endAssignment _) fun _ => .pure _

theorem counts_directory : Counts dialect.directory :=
  .bind (.assigned .quoted) fun _ => .bind (dialect.counts_endAssignment _) fun _ => .pure _

theorem counts_slide : Counts (slide : Reader (Directive Float)) :=
  .bind (.skipBlanks _) fun _ => .bind .quoted fun _ => .bind (.skipBlanks _) fun _ =>
    .bind .number fun _ => .pure _

theorem counts_compact : Counts (compact : Reader (Directive Float)) :=
  .bind .integer fun _ => .bind (.skipBlanks _) fun _ => .bind .vec fun _ =>
    .bind (.skipBlanks _) fun _ => .bind counts_cell fun _ => .bind (.skipBlanks _) fun _ =>
      .bind counts_cell fun _ => .pure _

theorem counts_framed (make : String → List (Property Float) → Directive Float) :
    Counts (dialect.framed make) :=
  .bind .quoted fun _ => .bind dialect.counts_block fun _ => .pure _

theorem counts_imageFrom (next : Option Char) :
    Counts (dialect.imageFrom next : Reader (Directive Float)) := by
  unfold imageFrom
  split
  · exact dialect.counts_framed _
  · exact counts_compact

theorem counts_directive (screenSet : Bool) (keyword : Keyword) :
    Counts (dialect.directive screenSet keyword : Reader (Directive Float)) := by
  cases keyword with
  | screen => exact dialect.counts_screen screenSet
  | imageDir => exact .bind dialect.counts_directory fun _ => .pure _
  | captionDir => exact .bind dialect.counts_directory fun _ => .pure _
  | slide => exact .bind (.require _ _) fun _ => counts_slide
  | customImage =>
    exact .bind (.require _ _) fun _ => .bind (.skipBlanks _) fun _ => dialect.counts_framed _
  | image =>
    exact .bind (.require _ _) fun _ => .bind (.skipBlanks _) fun _ => .bind .peek fun _ =>
      dialect.counts_imageFrom _

theorem counts_phraseOf (screenSet : Bool) (keyword : Option Keyword) :
    Counts (dialect.phraseOf screenSet keyword : Reader (Option (Phrase Float))) := by
  cases keyword with
  | none =>
    exact .bind (.bind .place fun _ => .bind .advance fun _ => .pure _) fun _ => .pure _
  | some keyword => exact .bind (dialect.counts_directive screenSet keyword) fun _ => .pure _

theorem counts_phraseUnless (screenSet ended : Bool) :
    Counts (dialect.phraseUnless screenSet ended : Reader (Option (Phrase Float))) := by
  unfold phraseUnless
  split
  · exact .pure _
  · exact .bind (.wordOf _ _) (dialect.counts_phraseOf screenSet)

theorem counts_phrase (screenSet : Bool) :
    Counts (dialect.phrase screenSet : Reader (Option (Phrase Float))) :=
  .bind (.skipBlanks _) fun _ => .bind .atEnd (dialect.counts_phraseUnless screenSet)

end Dialect

namespace Reading

theorem longRun_of_failure_onward {dialect : Dialect} {kind : NonFinite} (draft : Draft Float)
    (c : Cursor) (h : (onward dialect draft c).failure = some (.conversion kind)) :
    LongRun c.rest := by
  induction draft, c using induction (α := Float) dialect with
  | step draft c ih =>
    have hcounts := dialect.counts_phrase draft.screen.isSome
    rw [onward_eq] at h
    cases hphrase : dialect.phrase (α := Float) draft.screen.isSome c with
    | error e d =>
      rw [hphrase] at h
      cases h
      exact hcounts.longRun hphrase
    | ok phrase d =>
      rw [hphrase] at h
      cases phrase with
      | none => cases h
      | some phrase => exact hcounts.forward.longRun hphrase (ih phrase d hphrase h)

/-- A description fails for want of an integer at a long run of digits only. -/
theorem longRun_of_conversion {dialect : Dialect} {text : String} {kind : NonFinite}
    (h : (parse dialect text : Except Failure (Draft Float)) = .error (.conversion kind)) :
    LongRun text.toList := by
  rw [parse] at h
  split at h
  · next e he =>
    cases h
    exact longRun_of_failure_onward .initial (.ofText text) he
  · cases h

end Reading

end Slideshow
