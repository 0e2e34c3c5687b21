import Recordwright.Json.Number

/-!
# Written integers are read back

The reader gathers the digits of a number into a significand from the left, which is how the number
is regained from its digits (`readDigits_append`).  A numeral is a text of digits without leading
zeros (`IsNumeral`).  Its number is what the reader has when it comes to the end of the digits
(`readUnsigned_append`), unless the number does not fit sixty-four bits, and then what is read is no
integer (`exists_readUnsigned_eq_floatOfParts`).

Digits without a point or an exponent behind them are an integer.  So a text that spells an integer
(`SpellsInteger`) is read as this integer, whatever follows it that cannot go on with the number
(`SpellsInteger.readNumber_append`).
-/

namespace Recordwright.Json

variable {n : Nat} {c : Char} {ds rest : List Char}

/-! ### The end of a number -/

/-- The text does not go on with a digit. -/
def EndsDigits (rest : List Char) : Prop := ∀ c, rest.head? = some c → digit? c = none

/-- The text does not go on with what could belong to a number that ends before it. -/
def EndsNumber (rest : List Char) : Prop :=
  ∀ c, rest.head? = some c → digit? c = none ∧ c ≠ '.' ∧ c ≠ 'e' ∧ c ≠ 'E'

theorem EndsNumber.endsDigits (h : EndsNumber rest) : EndsDigits rest := fun c first =>
  (h c first).1

theorem endsDigits_cons (digit : digit? c = none) : EndsDigits (c :: rest) := by
  rintro _ ⟨⟩
  exact digit

theorem endsNumber_nil : EndsNumber [] := fun _ h => nomatch h

/-- A number ends before a character that is no part of one. -/
theorem endsNumber_cons (digit : digit? c = none) (point : c ≠ '.') (lower : c ≠ 'e')
    (upper : c ≠ 'E') : EndsNumber (c :: rest) := by
  rintro _ ⟨⟩
  exact ⟨digit, point, lower, upper⟩

/-- Digits that end here are an integer. -/
theorem readAfterDigits_of_endsNumber (ends : EndsNumber rest) (positive : Bool) (n : Nat) :
    readAfterDigits positive n rest = .ok (integerOf positive n, rest) := by
  cases rest with
  | nil => rfl
  | cons c rest =>
    obtain ⟨-, point, lower, upper⟩ := ends c rfl
    unfold readAfterDigits
    split
    next dot => exact absurd (List.cons.inj dot).1 point
    next e => exact absurd (List.cons.inj e).1 lower
    next e => exact absurd (List.cons.inj e).1 upper
    next => rfl

/-! ### The start of a number -/

/-- Is this a sign or a digit? -/
def StartsNumber (c : Char) : Prop := c = '-' ∨ (digit? c).isSome = true

instance (c : Char) : Decidable (StartsNumber c) := inferInstanceAs (Decidable (_ ∨ _))

/-! ### Digits -/

theorem digit?_of_isDigit (h : c.isDigit = true) : digit? c = some (c.toNat - '0'.toNat) := by
  simp only [Char.isDigit, Bool.and_eq_true, decide_eq_true_eq] at h
  exact if_pos h

theorem isSome_digit? (h : c.isDigit = true) : (digit? c).isSome = true := by
  rw [digit?_of_isDigit h, Option.isSome_some]

/-- More digits make a number no smaller. -/
theorem le_ofDigitChars (ds : List Char) (n : Nat) : n ≤ Nat.ofDigitChars 10 ds n := by
  rw [Nat.ofDigitChars_eq_ofDigitChars_zero]
  have scaled : n ≤ 10 ^ ds.length * n := Nat.le_mul_of_pos_left n (Nat.pow_pos (by decide))
  omega

/-- The digits behind what was gathered so far. -/
theorem readDigits_append (digits : ∀ c ∈ ds, c.isDigit = true) (ends : EndsDigits rest)
    (positive : Bool) (fits : Nat.ofDigitChars 10 ds n ≤ greatestSignificand) :
    readDigits positive n (ds ++ rest) =
      readAfterDigits positive (Nat.ofDigitChars 10 ds n) rest := by
  induction ds generalizing n with
  | nil =>
    rw [List.nil_append, Nat.ofDigitChars_nil]
    cases rest with
    | nil => rfl
    | cons c rest =>
      have stop : digit? c = none := ends c rfl
      simp only [readDigits, stop]
  | cons c ds ih =>
    obtain ⟨digit, others⟩ := List.forall_mem_cons.mp digits
    have value := digit?_of_isDigit digit
    rw [Nat.ofDigitChars_cons, Nat.mul_comm] at fits ⊢
    -- what is gathered on the way is no greater than the number
    have gathered := Nat.le_trans (le_ofDigitChars ds _) fits
    rw [List.cons_append, readDigits]
    simp only [value, if_pos gathered]
    exact ih others fits

/-- All digits behind those that fit raise the exponent. -/
theorem exists_readLong_eq (digits : ∀ c ∈ ds, c.isDigit = true) (positive : Bool) (n e : Nat) :
    ∃ e' : Nat, readLong positive n e ds = floatOfParts positive n e' [] := by
  induction ds generalizing e with
  | nil => exact ⟨e, rfl⟩
  | cons c ds ih =>
    obtain ⟨digit, others⟩ := List.forall_mem_cons.mp digits
    rw [readLong, if_pos (isSome_digit? digit)]
    exact ih others (e + 1)

/-- Digits that do not fit are no integer. -/
theorem exists_readDigits_eq_floatOfParts (digits : ∀ c ∈ ds, c.isDigit = true) (positive : Bool)
    (gathered : n ≤ greatestSignificand) (long : greatestSignificand < Nat.ofDigitChars 10 ds n) :
    ∃ (s : Nat) (e : Int), readDigits positive n ds = floatOfParts positive s e [] := by
  induction ds generalizing n with
  | nil => exact absurd long (Nat.not_lt_of_le gathered)
  | cons c ds ih =>
    obtain ⟨digit, others⟩ := List.forall_mem_cons.mp digits
    have value := digit?_of_isDigit digit
    rw [Nat.ofDigitChars_cons, Nat.mul_comm] at long
    rw [readDigits]
    simp only [value]
    split
    next fits => exact ih others fits long
    next =>
      obtain ⟨e, read⟩ := exists_readLong_eq others positive n 1
      exact ⟨n, e, read⟩

/-! ### Numerals -/

/-- The text is a number in digits, without leading zeros. -/
structure IsNumeral (ds : List Char) : Prop where
  digits : ∀ c ∈ ds, c.isDigit = true
  nonempty : ds ≠ []
  lead : ds.head? = some '0' → ds = ['0']

/-- The digits of a number that is not zero begin with one that is not zero. -/
theorem head?_toDigits_ne_zero (h : 0 < n) : (Nat.toDigits 10 n).head? ≠ some '0' := by
  -- along the digits from the right
  induction n using Nat.strongRecOn with
  | ind n ih =>
    by_cases single : n < 10
    · rw [Nat.toDigits_of_lt_base single, List.head?_singleton, ne_eq, Option.some_inj,
        Nat.digitChar_eq_zero]
      exact Nat.ne_of_gt h
    · have front := ih (n / 10) (by omega) (by omega)
      obtain ⟨d, ds, spelled⟩ :=
        List.exists_cons_of_ne_nil (Nat.toDigits_ne_nil (n := n / 10) (b := 10))
      rw [spelled] at front
      rw [Nat.toDigits_of_base_le (by decide) (by omega), spelled]
      exact front

theorem isNumeral_toDigits (n : Nat) : IsNumeral (Nat.toDigits 10 n) where
  digits _ member := Nat.isDigit_of_mem_toDigits (by decide) (by decide) member
  nonempty := Nat.toDigits_ne_nil
  lead zero := by
    rcases Nat.eq_zero_or_pos n with rfl | pos
    · exact Nat.toDigits_zero 10
    · exact absurd zero (head?_toDigits_ne_zero pos)

namespace IsNumeral

theorem exists_eq_cons (h : IsNumeral ds) :
    ∃ c cs, ds = c :: cs ∧ c.isDigit = true ∧ ∀ d ∈ cs, d.isDigit = true := by
  obtain ⟨c, cs, rfl⟩ := List.exists_cons_of_ne_nil h.nonempty
  exact ⟨c, cs, rfl, List.forall_mem_cons.mp h.digits⟩

/-- A numeral is a single zero or begins with another digit. -/
theorem eq_zero_or_cons (h : IsNumeral ds) :
    ds = ['0'] ∨ ∃ c cs, ds = c :: cs ∧ c.isDigit = true ∧ c ≠ '0' ∧
      ∀ d ∈ cs, d.isDigit = true := by
  obtain ⟨c, cs, rfl, digit, others⟩ := h.exists_eq_cons
  by_cases zero : c = '0'
  · exact .inl (h.lead (congrArg some zero))
  · exact .inr ⟨c, cs, rfl, digit, zero, others⟩

end IsNumeral

theorem ofDigitChars_cons_zero (c : Char) (ds : List Char) :
    Nat.ofDigitChars 10 (c :: ds) 0 = Nat.ofDigitChars 10 ds (c.toNat - '0'.toNat) := by
  rw [Nat.ofDigitChars_cons, Nat.mul_zero, Nat.zero_add]

/-- A digit other than zero has a value other than zero. -/
theorem toNat_sub_pos (digit : c.isDigit = true) (lead : c ≠ '0') :
    0 < c.toNat - '0'.toNat := by
  refine Nat.sub_pos_of_lt (Nat.lt_of_le_of_ne ?_ ?_)
  · simp only [Char.isDigit, Bool.and_eq_true, decide_eq_true_eq] at digit
    exact digit.1
  · exact fun same => lead (Char.toNat_inj.mp same).symm

theorem IsNumeral.ofDigitChars_pos (h : IsNumeral ds) (nonzero : ds ≠ ['0']) :
    0 < Nat.ofDigitChars 10 ds 0 := by
  rcases h.eq_zero_or_cons with rfl | ⟨c, cs, rfl, digit, lead, -⟩
  · exact absurd rfl nonzero
  · rw [ofDigitChars_cons_zero]
    exact Nat.lt_of_lt_of_le (toNat_sub_pos digit lead) (le_ofDigitChars cs _)

theorem readUnsigned_zero (ends : EndsDigits rest) (positive : Bool) :
    readUnsigned positive ('0' :: rest) = readAfterDigits positive 0 rest := by
  have zero : digit? '0' = some 0 := rfl
  unfold readUnsigned
  simp only [zero]
  cases rest with
  | nil => rfl
  | cons c rest =>
    have stop : digit? c = none := ends c rfl
    simp only [stop, Option.isSome_none, Bool.false_eq_true, if_false]

/-- A first digit that is not zero starts the significand. -/
theorem readUnsigned_cons (digit : c.isDigit = true) (lead : c ≠ '0') (positive : Bool) :
    readUnsigned positive (c :: rest) = readDigits positive (c.toNat - '0'.toNat) rest := by
  have value := digit?_of_isDigit digit
  -- a zero would be read by a branch of its own, in which no digit may follow
  obtain ⟨k, hk⟩ := Nat.exists_eq_add_one.mpr (toNat_sub_pos digit lead)
  rw [hk] at value ⊢
  unfold readUnsigned
  simp only [value]

/-- A numeral is gathered up to its end. -/
theorem readUnsigned_append (numeral : IsNumeral ds) (ends : EndsDigits rest) (positive : Bool)
    (fits : Nat.ofDigitChars 10 ds 0 ≤ greatestSignificand) :
    readUnsigned positive (ds ++ rest) =
      readAfterDigits positive (Nat.ofDigitChars 10 ds 0) rest := by
  rcases numeral.eq_zero_or_cons with rfl | ⟨c, cs, rfl, digit, lead, others⟩
  · exact readUnsigned_zero ends positive
  · rw [ofDigitChars_cons_zero] at fits ⊢
    rw [List.cons_append, readUnsigned_cons digit lead, readDigits_append others ends positive fits]

/-- A numeral that does not fit is no integer. -/
theorem exists_readUnsigned_eq_floatOfParts (numeral : IsNumeral ds) (positive : Bool)
    (long : greatestSignificand < Nat.ofDigitChars 10 ds 0) :
    ∃ (s : Nat) (e : Int), readUnsigned positive ds = floatOfParts positive s e [] := by
  rcases numeral.eq_zero_or_cons with rfl | ⟨c, cs, rfl, digit, lead, others⟩
  · exact absurd long (by decide)
  · have single : c.toNat - '0'.toNat ≤ greatestSignificand := by
      simp only [Char.isDigit, Bool.and_eq_true, decide_eq_true_eq] at digit
      have nine : c.toNat ≤ 57 := digit.2
      unfold greatestSignificand
      omega
    rw [ofDigitChars_cons_zero] at long
    rw [readUnsigned_cons digit lead]
    exact exists_readDigits_eq_floatOfParts others positive single long

/-- No sign stands before the digits of a number. -/
theorem readNumber_cons (digit : (digit? c).isSome = true) :
    readNumber (c :: rest) = readUnsigned true (c :: rest) := by
  unfold readNumber
  split
  next minus =>
    obtain rfl : c = '-' := (List.cons.inj minus).1
    contradiction
  next => rfl

theorem IsNumeral.readNumber_append (h : IsNumeral ds) (rest : List Char) :
    readNumber (ds ++ rest) = readUnsigned true (ds ++ rest) := by
  obtain ⟨c, cs, rfl, digit, -⟩ := h.exists_eq_cons
  exact readNumber_cons (isSome_digit? digit)

/-! ### Integers -/

/-- The text is an integer in digits without leading zeros.  Zero has no sign. -/
inductive SpellsInteger : List Char → Int → Prop
  | natural {ds : List Char} (numeral : IsNumeral ds) :
      SpellsInteger ds (Nat.ofDigitChars 10 ds 0)
  | negative {ds : List Char} (numeral : IsNumeral ds) (nonzero : ds ≠ ['0']) :
      SpellsInteger ('-' :: ds) (-(Nat.ofDigitChars 10 ds 0 : Nat))

theorem spellsInteger_toString (n : Int) : SpellsInteger (toString n).toList n := by
  cases n with
  | ofNat m =>
    have digits : (toString (Int.ofNat m)).toList = Nat.toDigits 10 m := Nat.toList_repr
    have spelled := SpellsInteger.natural (isNumeral_toDigits m)
    rwa [Nat.ofDigitChars_ten_toDigits, ← digits] at spelled
  | negSucc m =>
    have sign : toString (Int.negSucc m) = "-" ++ Nat.repr (m + 1) := rfl
    have nonzero : Nat.toDigits 10 (m + 1) ≠ ['0'] := fun zero =>
      head?_toDigits_ne_zero m.succ_pos (congrArg List.head? zero)
    have spelled := SpellsInteger.negative (isNumeral_toDigits (m + 1)) nonzero
    rw [Nat.ofDigitChars_ten_toDigits] at spelled
    rw [sign, String.toList_append, Nat.toList_repr]
    exact spelled

namespace SpellsInteger

variable {text : List Char} {n : Int}

theorem exists_eq_cons (h : SpellsInteger text n) : ∃ c cs, text = c :: cs ∧ StartsNumber c := by
  cases h with
  | natural numeral =>
    obtain ⟨c, cs, rfl, digit, -⟩ := numeral.exists_eq_cons
    exact ⟨c, cs, rfl, .inr (isSome_digit? digit)⟩
  | @negative ds => exact ⟨'-', ds, rfl, .inl rfl⟩

/-- **Integers.** An integer that fits sixty-four bits, with a sign or without one, is read as
such. -/
theorem readNumber_append (h : SpellsInteger text n) (low : -0x8000000000000000 ≤ n)
    (high : n ≤ greatestSignificand) (ends : EndsNumber rest) :
    readNumber (text ++ rest) = .ok (.integer n, rest) := by
  cases h with
  | natural numeral =>
    have fits : Nat.ofDigitChars 10 text 0 ≤ greatestSignificand := Int.ofNat_le.mp high
    rw [numeral.readNumber_append, readUnsigned_append numeral ends.endsDigits true fits,
      readAfterDigits_of_endsNumber ends]
    rfl
  | @negative ds numeral nonzero =>
    -- there is one negative number more than there are positive ones
    have small : 0 < Nat.ofDigitChars 10 ds 0 ∧
        Nat.ofDigitChars 10 ds 0 ≤ 0x8000000000000000 :=
      ⟨numeral.ofDigitChars_pos nonzero, by omega⟩
    have fits : Nat.ofDigitChars 10 ds 0 ≤ greatestSignificand :=
      Nat.le_trans small.2 (by decide)
    rw [List.cons_append, readNumber, readUnsigned_append numeral ends.endsDigits false fits,
      readAfterDigits_of_endsNumber ends]
    simp only [integerOf, Bool.false_eq_true, if_false, if_pos small]

/-- An integer that does not fit is read as a floating number, or it is an error. -/
theorem readNumber_of_not_fits (h : SpellsInteger text n)
    (far : n < -0x8000000000000000 ∨ greatestSignificand < n) :
    (∃ x, readNumber text = .ok (.float x, [])) ∨ ∃ fault, readNumber text = .error fault := by
  have parts {positive : Bool} {s : Nat} {e : Int} :
      (∃ x, floatOfParts positive s e [] = .ok (.float x, [])) ∨
        ∃ fault, floatOfParts positive s e [] = .error fault := by
    unfold floatOfParts
    split
    · exact .inl ⟨_, rfl⟩
    · exact .inr ⟨_, rfl⟩
  -- Too many digits end in a float at once; a negative number may still have few enough of them.
  cases h with
  | natural numeral =>
    have read := numeral.readNumber_append []
    rw [List.append_nil] at read
    have long : greatestSignificand < Nat.ofDigitChars 10 text 0 := by omega
    obtain ⟨s, e, float⟩ := exists_readUnsigned_eq_floatOfParts numeral true long
    rw [read, float]
    exact parts
  | @negative ds numeral nonzero =>
    rw [readNumber]
    by_cases fits : Nat.ofDigitChars 10 ds 0 ≤ greatestSignificand
    · have large : ¬(0 < Nat.ofDigitChars 10 ds 0 ∧
          Nat.ofDigitChars 10 ds 0 ≤ 0x8000000000000000) := by omega
      have read := readUnsigned_append numeral endsNumber_nil.endsDigits false fits
      rw [List.append_nil, readAfterDigits_of_endsNumber endsNumber_nil] at read
      rw [read, integerOf, if_neg Bool.false_ne_true, if_neg large]
      exact .inl ⟨_, rfl⟩
    · obtain ⟨s, e, float⟩ :=
        exists_readUnsigned_eq_floatOfParts numeral false (Nat.lt_of_not_le fits)
      rw [float]
      exact parts

end SpellsInteger

end Recordwright.Json
