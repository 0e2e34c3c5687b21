import Recordwright.Binary64.Text
import Recordwright.Proofs.Binary64.Shortest
import Recordwright.Proofs.Json.Number

/-!
# Written floating numbers are read back as such

The reader takes a decimal apart into a significand and an exponent of ten and rounds their product.
If the exponent is negative, the product is never too large.  Otherwise multiplication is monotone,
so for each power of ten the greatest significand decides (`exists_ofParts?_eq`).

A decimal is written with its digits in their places, and then it has a fraction, or with the
exponent of its first digit.  In either layout the reader gathers all digits, because there are few
of them, and finds that the product is not too large (`readsFloat_plain`,
`readsFloat_scientific`).  So the text of a finite number is read as a floating number
(`readsFloat_finiteText`), if not always as the one that was written.
-/

namespace Recordwright.Json

open Binary64

variable {n s : Nat} {e : Int} {c : Char} {ds fs tail rest : List Char} {positive : Bool}

/-! ### Parts -/

theorem isFinite_greatest_mul : ∀ j ≤ 18,
    ((ofNat (min (10 ^ 18) (greatestDecimal / 10 ^ (290 + j)))).mul
      (powerOfTen (290 + j))).isFinite = true := by
  decide +kernel

/-- A product of few digits and a power of ten is finite if it is not above the greatest decimal. -/
theorem isFinite_mul_powerOfTen {k : Nat} (short : s ≤ 10 ^ 18)
    (product : s * 10 ^ k ≤ greatestDecimal) (near : k ≤ 308) :
    ((ofNat s).mul (powerOfTen k)).isFinite = true := by
  -- smaller powers of ten are below `10 ^ 290`, which is still small for all digits
  obtain ⟨j, low, high, bound⟩ : ∃ j ≤ 18, k ≤ 290 + j ∧
      s ≤ min (10 ^ 18) (greatestDecimal / 10 ^ (290 + j)) := by
    rcases Nat.le_total k 290 with small | large
    · exact ⟨0, Nat.zero_le _, small, short.trans (by decide +kernel)⟩
    · obtain ⟨j, rfl⟩ := Nat.exists_eq_add_of_le large
      have quotient := (Nat.le_div_iff_mul_le (Nat.pow_pos (by decide))).mpr product
      exact ⟨j, by omega, Nat.le_refl _, le_min short quotient⟩
  have power : (powerOfTen k).magnitude ≤ (powerOfTen (290 + j)).magnitude := by
    refine magnitude_ofNat_mono ?_
    rw [Nat.pow_eq, Nat.pow_eq]
    exact Nat.pow_le_pow_right (by decide) high
  exact isFinite_of_le (magnitude_mul_mono (magnitude_ofNat_mono bound) power)
    (isFinite_greatest_mul j low)

theorem greatestDecimal_lt {k : Nat} (far : 308 < k) : greatestDecimal < 10 ^ k := by
  obtain ⟨j, rfl⟩ := Nat.exists_eq_add_of_lt far
  have power : greatestDecimal < 10 ^ 308 * 10 := by decide +kernel
  calc greatestDecimal
      < 10 ^ 308 * 10 := power
    _ ≤ 10 ^ 308 * 10 ^ (j + 1) := Nat.mul_le_mul_left _ (Nat.le_self_pow j.succ_ne_zero 10)
    _ = 10 ^ (308 + j + 1) := by rw [← pow_add, add_assoc]

theorem exists_ofParts?_of_neg (s : Nat) (neg : e < 0) : ∃ x, ofParts? s e = some x :=
  ⟨_, if_pos neg⟩

/-- Digits and an exponent are a number if they are not above the greatest decimal. -/
theorem exists_ofParts?_eq (short : s ≤ 10 ^ 18) (small : (s * 10 ^ e : ℚ) ≤ greatestDecimal) :
    ∃ x, ofParts? s e = some x := by
  by_cases sign : e < 0
  · exact exists_ofParts?_of_neg s sign
  obtain ⟨k, rfl⟩ := Int.eq_ofNat_of_zero_le (not_lt.mp sign)
  have product : s * 10 ^ k ≤ greatestDecimal := by
    rw [zpow_natCast] at small
    exact_mod_cast small
  simp only [ofParts?, if_neg sign, Int.toNat_natCast, Nat.cast_le_ofNat]
  by_cases near : k ≤ 308
  · exact ⟨_, by rw [if_pos near, if_pos (isFinite_mul_powerOfTen short product near)]⟩
  · -- with such an exponent nothing but zero is small
    obtain rfl : s = 0 := by
      by_contra nonzero
      have power : 10 ^ k ≤ s * 10 ^ k := Nat.le_mul_of_pos_left _ (Nat.pos_of_ne_zero nonzero)
      have large := greatestDecimal_lt (Nat.lt_of_not_le near)
      omega
    exact ⟨ofNat 0, by rw [if_neg near]; rfl⟩

/-- The result is a floating number, followed by `rest`. -/
def ReadsFloat (result : Except Fault (Number × List Char)) (rest : List Char) : Prop :=
  ∃ x, result = .ok (.float x, rest)

theorem readsFloat_floatOfParts (parts : ∃ x, ofParts? s e = some x) :
    ReadsFloat (floatOfParts positive s e rest) rest := by
  obtain ⟨x, parts⟩ := parts
  exact ⟨signed positive x, by rw [floatOfParts, parts]⟩

/-! ### Exponents -/

theorem dropDigits_append (digits : ∀ c ∈ ds, c.isDigit = true) (ends : EndsDigits rest) :
    dropDigits (ds ++ rest) = rest := by
  induction ds with
  | nil =>
    cases rest with
    | nil => rfl
    | cons c rest =>
      have stop : digit? c = none := ends c rfl
      rw [List.nil_append, dropDigits, stop]
      rfl
  | cons c ds ih =>
    obtain ⟨digit, others⟩ := List.forall_mem_cons.mp digits
    rw [List.cons_append, dropDigits, if_pos (isSome_digit? digit)]
    exact ih others

/-- The digits of an exponent.  One that is too long is an error only if it makes a number too
large. -/
theorem readsFloat_readExponentDigits {upwards : Bool} {start : Int}
    (digits : ∀ c ∈ ds, c.isDigit = true) (ends : EndsDigits rest)
    (short : upwards = true → Nat.ofDigitChars 10 ds n ≤ greatestExponent)
    (parts : ∃ x, ofParts? s (if upwards then start + Nat.ofDigitChars 10 ds n
      else start - Nat.ofDigitChars 10 ds n) = some x) :
    ReadsFloat (readExponentDigits positive upwards s start n (ds ++ rest)) rest := by
  induction ds generalizing n with
  | nil =>
    have finish : ReadsFloat (floatOfParts positive s _ rest) rest := readsFloat_floatOfParts parts
    cases rest with
    | nil => exact finish
    | cons c rest =>
      have stop : digit? c = none := ends c rfl
      simp only [List.nil_append, readExponentDigits, stop]
      exact finish
  | cons c ds ih =>
    obtain ⟨digit, others⟩ := List.forall_mem_cons.mp digits
    have value := digit?_of_isDigit digit
    rw [Nat.ofDigitChars_cons, Nat.mul_comm] at short parts
    rw [List.cons_append, readExponentDigits]
    simp only [value]
    split
    next => exact ih others short parts
    next long =>
      -- only a negative exponent can be too long, and then the number is zero
      have large : ¬(s ≠ 0 ∧ upwards = true) := fun both =>
        long (Nat.le_trans (le_ofDigitChars ds _) (short both.2))
      rw [if_neg large, dropDigits_append others ends]
      exact ⟨_, rfl⟩

/-- An exponent with its sign. -/
theorem readsFloat_readExponent {start : Int} (ends : EndsDigits rest)
    (short : e ≤ greatestExponent) (parts : ∃ x, ofParts? s (start + e) = some x) :
    ReadsFloat (readExponent positive s start
      ((if e < 0 then '-' else '+') :: (decimalDigits e.natAbs ++ rest))) rest := by
  obtain ⟨c, cs, spelled, digit, others⟩ := (isNumeral_toDigits e.natAbs).exists_eq_cons
  have value := digit?_of_isDigit digit
  have number : Nat.ofDigitChars 10 cs (c.toNat - '0'.toNat) = e.natAbs := by
    rw [← ofDigitChars_cons_zero, ← spelled, Nat.ofDigitChars_ten_toDigits]
  rw [decimalDigits, spelled, List.cons_append]
  by_cases sign : e < 0
  · -- behind a minus the exponent may have any number of digits
    rw [if_pos sign]
    simp only [readExponent, value]
    refine readsFloat_readExponentDigits others ends (fun up => absurd up Bool.false_ne_true) ?_
    rwa [if_neg Bool.false_ne_true, number, (by omega : start - e.natAbs = start + e)]
  · rw [if_neg sign]
    simp only [readExponent, value]
    refine readsFloat_readExponentDigits others ends (fun _ => ?_) ?_
    · rw [number]
      omega
    · rwa [if_pos rfl, number, (by omega : start + e.natAbs = start + e)]

/-! ### Fractions -/

/-- Digits behind the point are gathered if they fit. -/
theorem readFraction_append {before : Int} {places : Nat} (digits : ∀ c ∈ fs, c.isDigit = true)
    (ends : EndsDigits tail) (fits : Nat.ofDigitChars 10 fs n ≤ greatestSignificand)
    (some : places + fs.length ≠ 0) :
    readFraction positive before n places (fs ++ tail) =
      readTail positive (Nat.ofDigitChars 10 fs n) (before - (places + fs.length : Nat)) tail := by
  induction fs generalizing n places with
  | nil =>
    have behind : places ≠ 0 := some
    cases tail with
    | nil => simp only [List.nil_append, readFraction, if_neg behind]; rfl
    | cons c tail =>
      have stop : digit? c = none := ends c rfl
      simp only [List.nil_append, readFraction, stop, if_neg behind]
      rfl
  | cons c fs ih =>
    obtain ⟨digit, others⟩ := List.forall_mem_cons.mp digits
    have value := digit?_of_isDigit digit
    have length : places + (c :: fs).length = places + 1 + fs.length := by
      rw [List.length_cons]
      omega
    rw [Nat.ofDigitChars_cons, Nat.mul_comm] at fits ⊢
    -- what is gathered on the way is no greater than the number
    have gathered := Nat.le_trans (le_ofDigitChars fs _) fits
    rw [List.cons_append, readFraction, length]
    simp only [value, if_pos gathered]
    exact ih others fits (by omega)

/-- A numeral and a fraction are gathered as one number. -/
theorem readUnsigned_fraction (numeral : IsNumeral ds) (digits : ∀ c ∈ fs, c.isDigit = true)
    (nonempty : fs ≠ []) (ends : EndsDigits tail)
    (fits : Nat.ofDigitChars 10 (ds ++ fs) 0 ≤ greatestSignificand) :
    readUnsigned positive (ds ++ '.' :: (fs ++ tail)) =
      readTail positive (Nat.ofDigitChars 10 (ds ++ fs) 0) (-(fs.length : Int)) tail := by
  rw [Nat.ofDigitChars_append] at fits ⊢
  rw [readUnsigned_append numeral (endsDigits_cons rfl) positive
    (Nat.le_trans (le_ofDigitChars fs _) fits)]
  have some : 0 + fs.length ≠ 0 := by
    rwa [Nat.zero_add, ne_eq, List.length_eq_zero_iff]
  have read : readFraction positive 0 _ 0 (fs ++ tail) = _ :=
    readFraction_append digits ends fits some
  rwa [Nat.zero_add, zero_sub] at read

theorem readTail_of_endsNumber (ends : EndsNumber rest) :
    readTail positive s e rest = floatOfParts positive s e rest := by
  cases rest with
  | nil => rfl
  | cons c rest =>
    obtain ⟨-, -, lower, upper⟩ := ends c rfl
    unfold readTail
    split
    next letter => exact absurd (List.cons.inj letter).1 lower
    next letter => exact absurd (List.cons.inj letter).1 upper
    next => rfl

/-- The text is a numeral with a fraction, and all of its digits fit. -/
inductive IsFraction : List Char → Prop
  | intro {ds fs : List Char} (numeral : IsNumeral ds) (digits : ∀ c ∈ fs, c.isDigit = true)
      (nonempty : fs ≠ []) (fits : Nat.ofDigitChars 10 (ds ++ fs) 0 ≤ greatestSignificand) :
      IsFraction (ds ++ '.' :: fs)

/-- A number with a fraction and without an exponent is never too large. -/
theorem IsFraction.readsFloat {text : List Char} (h : IsFraction text) (ends : EndsNumber rest) :
    ReadsFloat (readUnsigned positive (text ++ rest)) rest := by
  obtain ⟨numeral, digits, nonempty, fits⟩ := h
  rw [List.append_assoc, List.cons_append,
    readUnsigned_fraction numeral digits nonempty ends.endsDigits fits, readTail_of_endsNumber ends]
  refine readsFloat_floatOfParts (exists_ofParts?_of_neg _ ?_)
  have := List.length_pos_of_ne_nil nonempty
  omega

/-! ### Layouts -/

variable {d : Decimal} {x : Binary64}

theorem isNumeral_cons {cs : List Char} (digits : ∀ d ∈ c :: cs, d.isDigit = true)
    (lead : c ≠ '0') : IsNumeral (c :: cs) where
  digits := digits
  nonempty := List.cons_ne_nil c cs
  lead zero := absurd (Option.some.inj zero) lead

/-- The digits of a decimal that is not zero. -/
theorem exists_decimalDigits_eq_cons (positive : 0 < n) :
    ∃ c cs, decimalDigits n = c :: cs ∧ c ≠ '0' ∧ ∀ d ∈ c :: cs, d.isDigit = true := by
  obtain ⟨c, cs, spelled⟩ := List.exists_cons_of_ne_nil (isNumeral_toDigits n).nonempty
  refine ⟨c, cs, spelled, ?_, spelled ▸ (isNumeral_toDigits n).digits⟩
  rintro rfl
  exact head?_toDigits_ne_zero positive (congrArg List.head? spelled)

theorem ofDigitChars_decimalDigits (n : Nat) : Nat.ofDigitChars 10 (decimalDigits n) 0 = n :=
  Nat.ofDigitChars_ten_toDigits

theorem lt_pow_length (n : Nat) : n < 10 ^ (decimalDigits n).length :=
  (Nat.length_toDigits_le_iff (by decide) Nat.length_toDigits_pos).mp (Nat.le_refl _)

theorem pow_length_le (positive : 0 < n) : 10 ^ ((decimalDigits n).length - 1) ≤ n := by
  by_contra less
  rw [Nat.not_le] at less
  have one : (decimalDigits n).length - 1 ≠ 0 := by
    intro zero
    rw [zero] at less
    omega
  have shorter : (decimalDigits n).length ≤ (decimalDigits n).length - 1 :=
    (Nat.length_toDigits_le_iff (by decide) (Nat.pos_of_ne_zero one)).mpr less
  omega

theorem isDigit_of_mem_zeros (k : Nat) : ∀ c ∈ List.replicate k '0', c.isDigit = true :=
  fun _ member => List.eq_of_mem_replicate member ▸ rfl

section Places

variable {cs : List Char} (digits : ∀ b ∈ c :: cs, b.isDigit = true)

include digits

/-- A whole number has a zero for its fraction. -/
theorem isFraction_whole (lead : c ≠ '0') {k : Nat}
    (size : Nat.ofDigitChars 10 (c :: cs) 0 < 10 ^ (c :: cs).length)
    (near : (c :: cs).length + k ≤ 16) :
    IsFraction (c :: cs ++ List.replicate k '0' ++ ['.', '0']) := by
  have numeral : IsNumeral (c :: cs ++ List.replicate k '0') :=
    isNumeral_cons (fun b member =>
      (List.mem_append.mp member).elim (digits b) (isDigit_of_mem_zeros k b)) lead
  refine .intro numeral (isDigit_of_mem_zeros 1) (List.cons_ne_nil _ _) ?_
  rw [Nat.ofDigitChars_append, Nat.ofDigitChars_append, Nat.ofDigitChars_replicate_zero]
  calc Nat.ofDigitChars 10 ['0'] (10 ^ k * Nat.ofDigitChars 10 (c :: cs) 0)
      = 10 * (10 ^ k * Nat.ofDigitChars 10 (c :: cs) 0) := rfl
    _ ≤ 10 * (10 ^ k * 10 ^ (c :: cs).length) := by gcongr
    _ = 10 ^ (1 + (k + (c :: cs).length)) := by rw [pow_add, pow_add, pow_one]
    _ ≤ 10 ^ 17 := Nat.pow_le_pow_right (by decide) (by omega)
    _ ≤ greatestSignificand := by decide

/-- The point stands among the digits. -/
theorem isFraction_among (lead : c ≠ '0') {k : Nat} (some : 0 < k) (inside : k < (c :: cs).length)
    (fits : Nat.ofDigitChars 10 (c :: cs) 0 ≤ greatestSignificand) :
    IsFraction ((c :: cs).take ((c :: cs).length - k) ++
      '.' :: (c :: cs).drop ((c :: cs).length - k)) := by
  obtain ⟨j, before⟩ : ∃ j, (c :: cs).length - k = j + 1 :=
    Nat.exists_eq_add_one.mpr (Nat.sub_pos_of_lt inside)
  have numeral : IsNumeral ((c :: cs).take ((c :: cs).length - k)) := by
    rw [before, List.take_succ_cons]
    refine isNumeral_cons (fun b member => digits b ?_) lead
    exact List.mem_of_mem_take (List.take_succ_cons ▸ member)
  refine .intro numeral (fun b member => digits b (List.mem_of_mem_drop member)) ?_ ?_
  · refine List.ne_nil_of_length_pos ?_
    rw [List.length_drop]
    omega
  · rwa [List.take_append_drop]

/-- The point stands before the digits. -/
theorem isFraction_before (k : Nat)
    (fits : Nat.ofDigitChars 10 (c :: cs) 0 ≤ greatestSignificand) :
    IsFraction (['0', '.'] ++ List.replicate k '0' ++ c :: cs) := by
  have zero : Nat.ofDigitChars 10 ['0'] 0 = 0 := rfl
  show IsFraction (['0'] ++ '.' :: (List.replicate k '0' ++ c :: cs))
  refine .intro (isNumeral_toDigits 0)
    (fun b member => (List.mem_append.mp member).elim (isDigit_of_mem_zeros k b) (digits b))
    (List.append_ne_nil_of_right_ne_nil _ (List.cons_ne_nil c cs)) ?_
  rwa [Nat.ofDigitChars_append, Nat.ofDigitChars_append, zero, Nat.ofDigitChars_replicate_zero,
    Nat.mul_zero]

end Places

/-- With its digits in their places a decimal is a numeral with a fraction. -/
theorem isFraction_plain (pos : 0 < d.digits) (short : d.digits ≤ 10 ^ 18) (near : d.lead ≤ 15) :
    IsFraction d.plain := by
  have number := ofDigitChars_decimalDigits d.digits
  have size := lt_pow_length d.digits
  have fits : d.digits ≤ greatestSignificand := Nat.le_trans short (by decide)
  obtain ⟨c, cs, spelled, lead, digits⟩ := exists_decimalDigits_eq_cons pos
  unfold Decimal.lead at near
  simp only [Decimal.plain]
  rw [spelled] at number size near ⊢
  rw [← number] at size fits
  split
  next whole => exact isFraction_whole digits lead size (by omega)
  next =>
    split
    next inside => exact isFraction_among digits lead (by omega) inside fits
    next => exact isFraction_before digits _ fits

theorem readsFloat_plain (pos : 0 < d.digits) (short : d.digits ≤ 10 ^ 18) (near : d.lead ≤ 15)
    (ends : EndsNumber rest) : ReadsFloat (readUnsigned positive (d.plain ++ rest)) rest :=
  (isFraction_plain pos short near).readsFloat ends

/-- The first digit of a decimal that is not above the greatest one. -/
theorem lead_le (pos : 0 < d.digits) (small : d.value ≤ greatestDecimal) : d.lead ≤ 308 := by
  by_contra far
  -- the first digit alone would be above the greatest decimal
  obtain ⟨k, lead⟩ := Int.eq_ofNat_of_zero_le (by omega : 0 ≤ d.lead)
  have first : (10 : ℚ) ^ ((decimalDigits d.digits).length - 1) ≤ d.digits := by
    exact_mod_cast pow_length_le pos
  have length : 0 < (decimalDigits d.digits).length := Nat.length_toDigits_pos
  have large : (greatestDecimal : ℚ) < 10 ^ k := by
    exact_mod_cast greatestDecimal_lt (by omega : 308 < k)
  have below : (10 : ℚ) ^ k ≤ d.value := by
    have place : d.lead = ((decimalDigits d.digits).length - 1 : Nat) + d.exponent := by
      unfold Decimal.lead
      omega
    rw [← zpow_natCast, ← lead, place, zpow_add₀ (by norm_num), zpow_natCast, Decimal.value]
    gcongr
  exact absurd (below.trans small) (not_le_of_gt large)

/-- A decimal in scientific form is read as a float: its first digit, the others behind a point if
there are any, and the exponent of the first one. -/
theorem readsFloat_scientific (pos : 0 < d.digits) (short : d.digits ≤ 10 ^ 18)
    (small : d.value ≤ greatestDecimal) (ends : EndsNumber rest) :
    ReadsFloat (readUnsigned positive (d.scientific ++ rest)) rest := by
  have number := ofDigitChars_decimalDigits d.digits
  have parts := exists_ofParts?_eq (e := d.exponent) short small
  have fits : d.digits ≤ greatestSignificand := Nat.le_trans short (by decide)
  have near : d.lead ≤ greatestExponent := (lead_le pos small).trans (by decide)
  obtain ⟨c, cs, spelled, lead, digits⟩ := exists_decimalDigits_eq_cons pos
  have place : d.lead = cs.length + d.exponent := by
    rw [Decimal.lead, spelled, List.length_cons]
    push_cast
    ring
  obtain ⟨digit, others⟩ := List.forall_mem_cons.mp digits
  have first : IsNumeral [c] := isNumeral_cons (List.forall_mem_singleton.mpr digit) lead
  unfold Decimal.scientific
  rw [spelled] at number ⊢
  -- the exponent of the first digit and the places behind the point make up that of the decimal
  cases cs with
  | nil =>
    show ReadsFloat (readUnsigned positive ([c] ++ 'e' :: _ :: (decimalDigits _ ++ rest))) rest
    rw [readUnsigned_append first (endsDigits_cons rfl) positive (number.symm ▸ fits), number]
    refine readsFloat_readExponent ends.endsDigits near ?_
    rwa [place, List.length_nil, Nat.cast_zero, zero_add, zero_add]
  | cons f fs =>
    have text : c :: '.' :: (f :: fs) ++ 'e' :: (if d.lead < 0 then '-' else '+') ::
        decimalDigits d.lead.natAbs ++ rest = [c] ++ '.' :: ((f :: fs) ++ 'e' ::
          (if d.lead < 0 then '-' else '+') :: (decimalDigits d.lead.natAbs ++ rest)) := by
      simp only [List.cons_append, List.append_assoc, List.nil_append]
    show ReadsFloat (readUnsigned positive (c :: '.' :: (f :: fs) ++ 'e' :: _ :: _ ++ rest)) rest
    rw [text, readUnsigned_fraction first others (List.cons_ne_nil f fs) (endsDigits_cons rfl)
      (number.symm ▸ fits)]
    refine readsFloat_readExponent ends.endsDigits near ?_
    rwa [place, neg_add_cancel_left, List.singleton_append, number]

/-! ### Finite numbers -/

/-- What is read without its sign begins with a digit. -/
theorem exists_eq_cons_of_readUnsigned {cs : List Char} {r : Number × List Char}
    (read : readUnsigned positive cs = .ok r) :
    ∃ c rest, cs = c :: rest ∧ (digit? c).isSome = true := by
  cases cs with
  | nil => cases read
  | cons c rest =>
    refine ⟨c, rest, rfl, ?_⟩
    cases digit : digit? c with
    | none =>
      simp only [readUnsigned, digit] at read
      cases read
    | some d => rfl

/-- The text of a finite number without its sign. -/
theorem readsFloat_magnitude (finite : x.isFinite = true) (ends : EndsNumber rest)
    (positive : Bool) :
    ReadsFloat (readUnsigned positive
      ((if x.magnitude = 0 then ['0', '.', '0'] else x.shortest.text layout) ++ rest)) rest := by
  split
  next =>
    have zero : IsNumeral ['0'] := isNumeral_toDigits 0
    have fraction : IsFraction ['0', '.', '0'] :=
      .intro zero zero.digits zero.nonempty (by decide)
    exact fraction.readsFloat ends
  next nonzero =>
    have pos := digits_shortest_pos finite nonzero
    have short := digits_shortest_le finite nonzero
    unfold Decimal.text
    split
    next near => exact readsFloat_plain pos short near.2 ends
    next => exact readsFloat_scientific pos short (value_shortest_le finite) ends

/-- **Floating numbers.** The text of a finite number is read as a floating number. -/
theorem readsFloat_finiteText (finite : x.isFinite = true) (ends : EndsNumber rest) :
    ReadsFloat (readNumber (x.finiteText ++ rest)) rest := by
  unfold finiteText
  dsimp only
  split
  next => exact readsFloat_magnitude finite ends false
  next =>
    obtain ⟨y, number⟩ := readsFloat_magnitude finite ends true
    obtain ⟨c, cs, text, digit⟩ := exists_eq_cons_of_readUnsigned number
    rw [text] at number ⊢
    rw [readNumber_cons digit]
    exact ⟨y, number⟩

/-- The text of a finite number starts with a sign or a digit. -/
theorem exists_finiteText_eq_cons (finite : x.isFinite = true) :
    ∃ c cs, x.finiteText = c :: cs ∧ StartsNumber c := by
  obtain ⟨y, number⟩ := readsFloat_magnitude finite endsNumber_nil true
  obtain ⟨c, cs, text, digit⟩ := exists_eq_cons_of_readUnsigned number
  rw [List.append_nil] at text
  unfold finiteText
  dsimp only
  split
  next => exact ⟨'-', _, rfl, .inl rfl⟩
  next => exact ⟨c, cs, text, .inr digit⟩

end Recordwright.Json
