import Recordwright.Binary64.Shortest
import Recordwright.Proofs.Binary64.Rounding

/-!
# The size of the shortest decimal

The digits of the decimal that is written for a finite number that is not zero are a number between
one and `10 ^ 18` (`digits_shortest_pos`, `digits_shortest_le`), and the decimal is never greater
than the one for the greatest finite number (`value_shortest_le`).

The search finds the neighbour below the number on one of its grids, which is not zero if the grid
is not coarser than the first digit, or the one above, which was tested against the upper end of the
interval (`Interval.exists_search_eq`).  All three bounds follow from that.  That the search begins
at the first digit rests on the estimate of its exponent, and this on how close `30103 / 100000` is
to the logarithm of two (`ten_zpow_le_two_zpow`, `two_zpow_le_ten_zpow`).
-/

namespace Recordwright.Binary64

/-! ### Decimals -/

namespace Decimal

/-- The number that a decimal stands for. -/
def value (d : Decimal) : ℚ := d.digits * 10 ^ d.exponent

theorem value_pos_iff {d : Decimal} : 0 < d.value ↔ 0 < d.digits := by
  have power : (0 : ℚ) < 10 ^ d.exponent := zpow_pos (by norm_num) _
  rw [value, mul_pos_iff_of_pos_right power, Nat.cast_pos]

theorem value_trimmed (steps : Nat) (d : Decimal) : (d.trimmed steps).value = d.value := by
  induction steps generalizing d with
  | zero => rfl
  | succ steps ih =>
    rw [trimmed]
    split
    next zero =>
      have division : (d.digits / 10 : Nat) * 10 = d.digits :=
        Nat.div_mul_cancel (Nat.dvd_of_mod_eq_zero zero.2)
      rw [ih, value, value, zpow_add_one₀ (by norm_num), mul_comm (10 ^ _), ← mul_assoc]
      congr 1
      exact_mod_cast division
    next => rfl

theorem digits_trimmed_le (steps : Nat) (d : Decimal) : (d.trimmed steps).digits ≤ d.digits := by
  induction steps generalizing d with
  | zero => exact Nat.le_refl _
  | succ steps ih =>
    rw [trimmed]
    split
    · exact (ih _).trans (Nat.div_le_self _ _)
    · exact Nat.le_refl _

end Decimal

/-! ### Ratios in units of a power of ten -/

section Ratios

variable {num den d : Nat} {k : Int}

/-- The powers of ten stand on the sides where they are no fractions. -/
theorem mul_ten_zpow_le_div_iff (hd : 0 < den) :
    (d * 10 ^ k : ℚ) ≤ num / den ↔ d * 10 ^ k.toNat * den ≤ num * 10 ^ (-k).toNat := by
  have positive : (0 : ℚ) < den := Nat.cast_pos.mpr hd
  rw [← pow_toNat_div_pow_toNat, ← mul_div_assoc, div_le_div_iff₀ (by positivity) positive,
    ← Nat.cast_le (α := ℚ)]
  push_cast
  exact Iff.rfl

theorem ten_zpow_le_div_iff (hd : 0 < den) :
    (10 : ℚ) ^ k ≤ num / den ↔ den * 10 ^ k.toNat ≤ num * 10 ^ (-k).toNat := by
  rw [← one_mul (10 ^ k), ← Nat.cast_one, mul_ten_zpow_le_div_iff hd, one_mul, mul_comm den]

end Ratios

/-! ### The search -/

namespace Interval

variable {i : Interval} {k : Int} {d : Nat}

/-- The number of the interval is a ratio, and the upper end lies above it. -/
structure Ordered (i : Interval) : Prop where
  positive : 0 < i.denominator
  value_le_high : i.value ≤ i.high

/-- The decimal is the neighbour below the number, or the one above if it does not pass the upper
end. -/
def IsCandidate (i : Interval) (k : Int) (d : Nat) : Prop :=
  d = i.below k ∨ (d = i.below k + 1 ∧ i.notPassedBy d k = true)

theorem isCandidate_of_onGrid? (hit : i.onGrid? k = some d) : i.IsCandidate k d := by
  simp only [onGrid?] at hit
  split at hit
  next both =>
    -- both neighbours lie in the interval, and either may be the nearer one
    have tested := (Bool.and_eq_true_iff.mp both).2
    have nearer : d = i.below k ∨ d = i.below k + 1 := by
      split at hit
      · exact .inl (Option.some.inj hit).symm
      split at hit
      · exact .inr (Option.some.inj hit).symm
      · have middle := Option.some.inj hit
        omega
    exact nearer.imp_right fun above => ⟨above, above ▸ tested⟩
  next =>
    split at hit
    · exact .inl (Option.some.inj hit).symm
    split at hit
    next tested =>
      have above := (Option.some.inj hit).symm
      exact .inr ⟨above, above ▸ tested⟩
    next => cases hit

/-- **The search.** What is found lies on one of the grids and is a candidate there. -/
theorem exists_search_eq (i : Interval) (steps : Nat) (k : Int) :
    ∃ e d, e ≤ k ∧ k ≤ e + steps ∧ i.search steps k = ⟨d, e⟩ ∧ i.IsCandidate e d := by
  induction steps generalizing k with
  | zero => exact ⟨k, i.below k, Int.le_refl k, by omega, rfl, .inl rfl⟩
  | succ steps ih =>
    rw [search]
    split
    next d hit => exact ⟨k, d, Int.le_refl k, by omega, rfl, isCandidate_of_onGrid? hit⟩
    next =>
      obtain ⟨e, d, below, above, found, candidate⟩ := ih (k - 1)
      exact ⟨e, d, by omega, by omega, found, candidate⟩

theorem below_le (positive : 0 < i.denominator) (k : Int) :
    (i.below k * 10 ^ k : ℚ) ≤ i.value / i.denominator := by
  rw [mul_ten_zpow_le_div_iff positive, mul_assoc, mul_comm (10 ^ _)]
  unfold below
  simp only [Nat.pow_eq]
  exact Nat.div_mul_le_self _ _

/-- Below a number that has a digit in this place or a higher one lies more than zero. -/
theorem below_pos (positive : 0 < i.denominator)
    (reached : (10 : ℚ) ^ k ≤ i.value / i.denominator) : 0 < i.below k := by
  unfold below
  simp only [Nat.pow_eq]
  exact Nat.div_pos ((ten_zpow_le_div_iff positive).mp reached) (by positivity)

/-- A number with this many digits before the place has no more of them below it. -/
theorem below_lt (positive : 0 < i.denominator) {j : Nat}
    (short : (i.value / i.denominator : ℚ) < 10 ^ (k + j)) : i.below k < 10 ^ j := by
  have power : (0 : ℚ) < 10 ^ k := zpow_pos (by norm_num) k
  have bound := (i.below_le positive k).trans_lt short
  rw [add_comm, zpow_add₀ (by norm_num), mul_lt_mul_iff_left₀ power, zpow_natCast] at bound
  exact_mod_cast bound

theorem le_of_notPassedBy (positive : 0 < i.denominator) (h : i.notPassedBy d k = true) :
    (d * 10 ^ k : ℚ) ≤ i.high / i.denominator := by
  rw [mul_ten_zpow_le_div_iff positive]
  unfold notPassedBy at h
  simp only [Nat.pow_eq] at h
  split at h
  · exact of_decide_eq_true h
  · exact (of_decide_eq_true h).le

namespace Ordered

/-- What is found does not pass the upper end. -/
theorem value_search_le (h : i.Ordered) (steps : Nat) (k : Int) :
    (i.search steps k).value ≤ i.high / i.denominator := by
  obtain ⟨e, d, -, -, found, rfl | ⟨-, tested⟩⟩ := i.exists_search_eq steps k
  · calc (i.search steps k).value
        = i.below e * 10 ^ e := by rw [found, Decimal.value]
      _ ≤ i.value / i.denominator := i.below_le h.positive e
      _ ≤ i.high / i.denominator := by
        have := h.value_le_high
        gcongr
  · rw [found]
    exact le_of_notPassedBy h.positive tested

/-- A search from the first digit of the number on finds more than zero. -/
theorem digits_search_pos (h : i.Ordered) (steps : Nat)
    (reached : (10 : ℚ) ^ k ≤ i.value / i.denominator) : 0 < (i.search steps k).digits := by
  obtain ⟨e, d, finer, -, found, candidate⟩ := i.exists_search_eq steps k
  have below : 0 < i.below e :=
    below_pos h.positive (le_trans (zpow_le_zpow_right₀ (by norm_num) finer) reached)
  rw [found]
  rcases candidate with rfl | ⟨rfl, -⟩
  · exact below
  · exact Nat.succ_pos _

/-- A number with one digit on the first grid has one digit more on each of the others. -/
theorem digits_search_le (h : i.Ordered) (steps : Nat)
    (short : (i.value / i.denominator : ℚ) < 10 ^ (k + 1)) :
    (i.search steps k).digits ≤ 10 ^ (steps + 1) := by
  obtain ⟨e, d, -, coarser, found, candidate⟩ := i.exists_search_eq steps k
  have below : i.below e < 10 ^ (steps + 1) := by
    refine below_lt h.positive (short.trans_le (zpow_le_zpow_right₀ (by norm_num) ?_))
    push_cast
    omega
  rw [found]
  rcases candidate with rfl | ⟨rfl, -⟩
  · exact below.le
  · exact below

end Ordered

end Interval

/-! ### The first digit -/

/-- The place is found unless it is too many steps away, and it is the first one unless the search
begins too low. -/
theorem firstDigit_cases {num den : Nat} (hd : 0 < den) (steps : Nat) (k : Int) :
    ((10 : ℚ) ^ firstDigit num den steps k ≤ num / den ∨
        firstDigit num den steps k = k - steps) ∧
      ((num / den : ℚ) < 10 ^ (firstDigit num den steps k + 1) ∨
        firstDigit num den steps k = k) := by
  induction steps generalizing k with
  | zero => exact ⟨.inr (by rw [firstDigit, Nat.cast_zero, sub_zero]), .inr rfl⟩
  | succ steps ih =>
    have test : (10 : ℚ) ^ k ≤ num / den ↔ _ := ten_zpow_le_div_iff hd
    rw [firstDigit]
    simp only [Nat.pow_eq, ← test]
    split
    next here => exact ⟨.inl here, .inr rfl⟩
    next below =>
      -- the place above the next one to be tried is the one that was tested
      obtain ⟨low, high⟩ := ih (k - 1)
      refine ⟨low.imp_right fun last => ?_, .inl (high.elim id fun next => ?_)⟩
      · rw [last, Nat.cast_add_one]
        ring
      · rw [next, sub_add_cancel]
        exact lt_of_not_ge below

/-- The place is found if it is no more steps away than may be taken. -/
theorem ten_zpow_firstDigit_le {num den : Nat} (hd : 0 < den) {steps : Nat} {k : Int}
    (near : (10 : ℚ) ^ (k - steps) ≤ num / den) :
    (10 : ℚ) ^ firstDigit num den steps k ≤ num / den :=
  (firstDigit_cases hd steps k).1.elim id fun last => last ▸ near

theorem lt_ten_zpow_firstDigit {num den : Nat} (hd : 0 < den) {steps : Nat} {k : Int}
    (high : (num / den : ℚ) < 10 ^ (k + 1)) :
    (num / den : ℚ) < 10 ^ (firstDigit num den steps k + 1) :=
  (firstDigit_cases hd steps k).2.elim id fun first => first.symm ▸ high

/-! ### The logarithm of two -/

theorem ten_pow_le_two_pow : ∀ n ≤ 1100, 10 ^ (n * 30103 / 100000) ≤ 2 ^ n := by decide +kernel

theorem two_pow_le_ten_pow : ∀ n ≤ 1100, 2 ^ n ≤ 10 ^ ((n * 30103 + 99999) / 100000) := by
  decide +kernel

/-- For all powers of two that numbers reach, `30103 / 100000` serves as the logarithm of two. -/
theorem ten_zpow_le_two_zpow {e : Int} (low : -1100 ≤ e) (high : e ≤ 1100) :
    (10 : ℚ) ^ (e * 30103 / 100000) ≤ 2 ^ e := by
  rcases Int.le_total 0 e with pos | neg
  · obtain ⟨n, rfl⟩ := Int.eq_ofNat_of_zero_le pos
    have bound := ten_pow_le_two_pow n (by omega)
    rw [(by omega : (n : Int) * 30103 / 100000 = (n * 30103 / 100000 : Nat)), zpow_natCast,
      zpow_natCast]
    exact_mod_cast bound
  · -- the inverses compare the other way, and so the exponent is rounded up
    obtain ⟨n, rfl⟩ := Int.exists_eq_neg_ofNat neg
    have bound := two_pow_le_ten_pow n (by omega)
    rw [(by omega : -(n : Int) * 30103 / 100000 = -((n * 30103 + 99999) / 100000 : Nat)), zpow_neg,
      zpow_neg, zpow_natCast, zpow_natCast]
    gcongr
    exact_mod_cast bound

theorem two_zpow_le_ten_zpow {e : Int} (low : -1100 ≤ e) (high : e ≤ 1100) :
    (2 : ℚ) ^ e ≤ 10 ^ (e * 30103 / 100000 + 1) := by
  rcases Int.le_total 0 e with pos | neg
  · obtain ⟨n, rfl⟩ := Int.eq_ofNat_of_zero_le pos
    have bound : (2 : ℚ) ^ n ≤ 10 ^ ((n * 30103 + 99999) / 100000) := by
      exact_mod_cast two_pow_le_ten_pow n (by omega)
    rw [zpow_natCast]
    refine bound.trans ?_
    rw [← zpow_natCast]
    exact zpow_le_zpow_right₀ (by norm_num) (by omega)
  · obtain ⟨n, rfl⟩ := Int.exists_eq_neg_ofNat neg
    have bound : (10 : ℚ) ^ (n * 30103 / 100000) ≤ 2 ^ n := by
      exact_mod_cast ten_pow_le_two_pow n (by omega)
    calc (2 : ℚ) ^ (-(n : Int))
        = (2 ^ n)⁻¹ := by rw [zpow_neg, zpow_natCast]
      _ ≤ (10 ^ (n * 30103 / 100000))⁻¹ := by gcongr
      _ = 10 ^ (-(n * 30103 / 100000 : Nat) : Int) := by rw [zpow_neg, zpow_natCast]
      _ ≤ 10 ^ (-(n : Int) * 30103 / 100000 + 1) :=
        zpow_le_zpow_right₀ (by norm_num) (by omega)

/-! ### The estimate -/

variable {x : Binary64}

theorem significand_pos (nonzero : x.magnitude ≠ 0) : 0 < x.significand := by
  unfold significand
  split
  · exact Nat.pos_of_ne_zero nonzero
  · exact Nat.add_pos_right _ (by decide)

theorem scale_le (finite : x.isFinite = true) : x.scale ≤ 971 := by
  have small : x.magnitude < infinityBits := of_decide_eq_true finite
  have exponent : x.magnitude / exponentWeight < 0x7FF :=
    Nat.div_lt_of_lt_mul (by rwa [Nat.mul_comm])
  unfold scale
  split <;> omega

theorem le_scale (x : Binary64) : -1074 ≤ x.scale := by
  unfold scale
  generalize x.magnitude / exponentWeight = exponent
  split <;> omega

/-- The exponent of the first bit lies in the range for which the logarithm was tested. -/
theorem log2_add_scale_le (finite : x.isFinite = true) (nonzero : x.magnitude ≠ 0) :
    (x.significand.log2 + 1 : Int) + x.scale ≤ 1100 := by
  have length : x.significand.log2 < 53 :=
    (Nat.log2_lt (significand_pos nonzero).ne').mpr x.significand_lt
  have := scale_le finite
  omega

/-- The estimate is at most two too high. -/
theorem ten_zpow_estimate_le (finite : x.isFinite = true) (nonzero : x.magnitude ≠ 0) :
    (10 : ℚ) ^ (x.estimate - 2) ≤ x.value := by
  have leading : (2 : ℚ) ^ x.significand.log2 ≤ x.significand := by
    exact_mod_cast Nat.log2_self_le (significand_pos nonzero).ne'
  have high := log2_add_scale_le finite nonzero
  have low := x.le_scale
  set e : Int := (x.significand.log2 + 1 : Int) + x.scale with exponent
  -- `e` counts the bits before the point, so its power of two is above the number
  have power : (2 : ℚ) ^ e = 2 * (2 ^ x.significand.log2 * 2 ^ x.scale) := by
    rw [exponent, zpow_add₀ (by norm_num), zpow_add_one₀ (by norm_num), zpow_natCast,
      mul_comm (2 ^ _) (2 : ℚ), mul_assoc]
  have estimate : x.estimate - 2 = e * 30103 / 100000 - 1 := by
    rw [Binary64.estimate, exponent]
    ring
  calc (10 : ℚ) ^ (x.estimate - 2)
      = 10 ^ (e * 30103 / 100000) / 10 := by
        rw [estimate, zpow_sub_one₀ (by norm_num), div_eq_mul_inv]
    _ ≤ 2 ^ e / 10 := by
      have := ten_zpow_le_two_zpow (e := e) (by omega) high
      gcongr
    -- twice the leading bit is less than ten times the leading bit
    _ ≤ 2 ^ x.significand.log2 * 2 ^ x.scale := by
      have : (0 : ℚ) < 2 ^ x.significand.log2 * 2 ^ x.scale := by positivity
      rw [power]
      linarith
    _ ≤ x.value := by
      rw [value]
      gcongr

/-- The estimate is not too low. -/
theorem lt_ten_zpow_estimate (finite : x.isFinite = true) (nonzero : x.magnitude ≠ 0) :
    x.value < 10 ^ x.estimate := by
  have leading : (x.significand : ℚ) < 2 ^ (x.significand.log2 + 1) := by
    exact_mod_cast Nat.lt_log2_self
  have low := x.le_scale
  calc x.value
      < 2 ^ (x.significand.log2 + 1) * 2 ^ x.scale := by
        rw [value]
        gcongr
    _ = 2 ^ ((x.significand.log2 + 1 : Int) + x.scale) := by
      rw [zpow_add₀ (by norm_num), ← zpow_natCast, Nat.cast_add_one]
    _ ≤ 10 ^ x.estimate :=
      two_zpow_le_ten_zpow (by omega) (log2_add_scale_le finite nonzero)

/-! ### The interval of a number -/

theorem ordered_interval (x : Binary64) : x.interval.Ordered where
  positive := by
    simp only [interval, Nat.pow_eq]
    positivity
  value_le_high := Nat.mul_le_mul_right _ (by omega)

theorem div_denominator_interval (x : Binary64) (n : Nat) :
    ((n * Nat.pow 2 (x.scale - 2).toNat : Nat) / x.interval.denominator : ℚ) =
      n * 2 ^ (x.scale - 2) := by
  have opposite : 2 - x.scale = -(x.scale - 2) := by ring
  simp only [interval, Nat.pow_eq]
  rw [← pow_toNat_div_pow_toNat, opposite]
  push_cast
  rw [mul_div_assoc]

theorem value_div_denominator (x : Binary64) :
    (x.interval.value / x.interval.denominator : ℚ) = x.value := by
  refine (x.div_denominator_interval (4 * x.significand)).trans ?_
  rw [value, zpow_sub₀ (by norm_num)]
  push_cast
  ring

theorem high_div_denominator (x : Binary64) :
    (x.interval.high / x.interval.denominator : ℚ) =
      (4 * x.significand + 2 : Nat) * 2 ^ (x.scale - 2) :=
  x.div_denominator_interval (4 * x.significand + 2)

/-! ### The shortest decimal -/

/-- **The shortest decimal is not zero.** -/
theorem digits_shortest_pos (finite : x.isFinite = true) (nonzero : x.magnitude ≠ 0) :
    0 < x.shortest.digits := by
  rw [← Decimal.value_pos_iff, shortest, Decimal.value_trimmed, Decimal.value_pos_iff]
  refine x.ordered_interval.digits_search_pos 17 ?_
  refine ten_zpow_firstDigit_le x.ordered_interval.positive ?_
  rw [value_div_denominator]
  refine le_trans ?_ (ten_zpow_estimate_le finite nonzero)
  exact zpow_le_zpow_right₀ (by norm_num) (by omega)

/-- **The shortest decimal has few digits.** -/
theorem digits_shortest_le (finite : x.isFinite = true) (nonzero : x.magnitude ≠ 0) :
    x.shortest.digits ≤ 10 ^ 18 := by
  refine (Decimal.digits_trimmed_le _ _).trans (x.ordered_interval.digits_search_le 17 ?_)
  refine lt_ten_zpow_firstDigit x.ordered_interval.positive ?_
  rw [value_div_denominator]
  refine (lt_ten_zpow_estimate finite nonzero).trans_le ?_
  exact zpow_le_zpow_right₀ (by norm_num) (by omega)

theorem value_shortest_le_high (x : Binary64) :
    x.shortest.value ≤ x.interval.high / x.interval.denominator := by
  rw [shortest, Decimal.value_trimmed]
  exact x.ordered_interval.value_search_le 17 _

/-- The decimal that is written for the greatest finite number.  It is less than this number. -/
def greatestDecimal : Nat := 17976931348623157 * 10 ^ 292

theorem shortest_eq_of_magnitude {y : Binary64} (h : x.magnitude = y.magnitude) :
    x.shortest = y.shortest := by
  unfold shortest interval estimate significand scale
  rw [h]

/-- The greatest finite number. -/
theorem shortest_greatest (h : x.magnitude = infinityBits - 1) :
    x.shortest = ⟨17976931348623157, 292⟩ := by
  have greatest : (ofMagnitude false (infinityBits - 1)).shortest = ⟨17976931348623157, 292⟩ := by
    decide +kernel
  exact (shortest_eq_of_magnitude h).trans greatest

/-- All other numbers have a smaller significand or a smaller scale. -/
theorem significand_le_or_scale_le (h : x.magnitude < infinityBits - 1) :
    (x.significand ≤ 0x1FFFFFFFFFFFFE ∧ x.scale ≤ 971) ∨ x.scale ≤ 970 := by
  unfold significand scale
  unfold infinityBits at h
  unfold exponentWeight at *
  split
  · exact .inr (by omega)
  · -- with the last exponent all fractions but the greatest one are left
    by_cases last : x.magnitude / 0x10000000000000 = 0x7FE
    · exact .inl ⟨by omega, by omega⟩
    · exact .inr (by omega)

/-- Their intervals end below the greatest finite number. -/
theorem high_div_denominator_le (h : x.magnitude < infinityBits - 1) :
    (x.interval.high / x.interval.denominator : ℚ) ≤ greatestDecimal := by
  have scaled {m k : Nat} (digits : x.significand ≤ m) (place : x.scale ≤ k + 2)
      (small : (4 * m + 2) * 2 ^ k ≤ greatestDecimal) :
      (x.interval.high / x.interval.denominator : ℚ) ≤ greatestDecimal := by
    have power : (2 : ℚ) ^ (x.scale - 2) ≤ 2 ^ k := by
      rw [← zpow_natCast]
      exact zpow_le_zpow_right₀ (by norm_num) (by omega)
    calc (x.interval.high / x.interval.denominator : ℚ)
        = (4 * x.significand + 2 : Nat) * 2 ^ (x.scale - 2) := x.high_div_denominator
      _ ≤ (4 * m + 2 : Nat) * 2 ^ k := by gcongr
      _ ≤ greatestDecimal := by exact_mod_cast small
  rcases significand_le_or_scale_le h with ⟨digits, place⟩ | place
  · exact scaled digits place (by decide +kernel : _ * 2 ^ 969 ≤ _)
  · exact scaled (Nat.le_of_lt_succ x.significand_lt) place (by decide +kernel : _ * 2 ^ 968 ≤ _)

/-- **The shortest decimal does not overflow.** -/
theorem value_shortest_le (finite : x.isFinite = true) : x.shortest.value ≤ greatestDecimal := by
  have small : x.magnitude < infinityBits := of_decide_eq_true finite
  rcases (Nat.le_sub_one_of_lt small).eq_or_lt with greatest | less
  · -- the interval of the greatest number reaches further than its decimal does
    rw [shortest_greatest greatest, Decimal.value, greatestDecimal, Nat.cast_mul, Nat.cast_pow]
    exact (congrArg _ (zpow_natCast 10 292)).le
  · exact x.value_shortest_le_high.trans (high_div_denominator_le less)

end Recordwright.Binary64
