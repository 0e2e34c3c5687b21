import Mathlib.Algebra.Order.Field.Power
import Mathlib.Data.Rat.Cast.Order
import Mathlib.Tactic.FieldSimp
import Mathlib.Tactic.Linarith
import Mathlib.Tactic.NormNum
import Mathlib.Tactic.Positivity
import Mathlib.Tactic.Ring
import Recordwright.Binary64.Rounding

/-!
# Rounding is monotone

The greater of two ratios has the greater rounded number (`ratioBits_mono`), so products of greater
numbers are greater (`magnitude_mul_mono`), and a product is finite if that of greater numbers is.

The proof follows the stages of rounding, with ratios as rational numbers.  A quotient that is
rounded to a natural number is at most `n` iff the ratio is below `n + 1/2`, or at it and `n` even
(`roundedQuotient_le_iff`), a condition that a smaller ratio inherits.  The exponent of the greatest
power of two below the ratio says by which power of two the ratio is divided first
(`floorLog_bounds`).  Ratios that are divided by the same power compare as their quotients do.  If
the powers differ, the quotient of the smaller ratio is at most `2 ^ 53` and that of the greater one
at least `2 ^ 52`, and the bits of the exponent make up for it.
-/

namespace Recordwright.Binary64

/-! ### Powers with a sign -/

/-- A power with a sign as the quotient of two powers without one. -/
theorem pow_toNat_div_pow_toNat (b : ℚ) (e : Int) : b ^ e.toNat / b ^ (-e).toNat = b ^ e := by
  rcases Int.le_total 0 e with pos | neg
  · rw [Int.toNat_of_nonpos (by omega : -e ≤ 0), pow_zero, div_one, ← zpow_natCast,
      Int.toNat_of_nonneg pos]
  · rw [Int.toNat_of_nonpos neg, pow_zero, one_div, ← zpow_natCast,
      Int.toNat_of_nonneg (by omega : 0 ≤ -e), zpow_neg, inv_inv]

/-! ### Rounding to a natural number -/

variable {num den num' den' n : Nat}

/-- A ratio is rounded to at most `n` iff it lies below the middle between `n` and `n + 1`, or in
the middle if `n` is even. -/
theorem roundedQuotient_le_iff_mul (hd : 0 < den) :
    roundedQuotient num den ≤ n ↔
      2 * num < (2 * n + 1) * den ∨ (2 * num = (2 * n + 1) * den ∧ n % 2 = 0) := by
  have division := Nat.div_add_mod num den
  have small := Nat.mod_lt num hd
  unfold roundedQuotient
  generalize num / den = q at division ⊢
  generalize num % den = r at division small ⊢
  subst division
  dsimp only
  rcases Nat.lt_trichotomy n q with less | rfl | more
  · -- the ratio is at least `n + 1`
    have far : (2 * n + 1) * den < 2 * (den * q + r) := by nlinarith
    refine iff_of_false ?_ (by omega)
    split
    · omega
    split <;> omega
  · have middle : (2 * n + 1) * den = 2 * (den * n) + den := by ring
    rw [middle]
    split
    · omega
    split <;> omega
  · -- the ratio is below `n`
    have far : 2 * (den * q + r) < (2 * n + 1) * den := by nlinarith
    refine iff_of_true ?_ (.inl far)
    split
    · omega
    split <;> omega

theorem roundedQuotient_le_iff (hd : 0 < den) :
    roundedQuotient num den ≤ n ↔
      (num / den : ℚ) < n + 1 / 2 ∨ ((num / den : ℚ) = n + 1 / 2 ∧ n % 2 = 0) := by
  have positive : (0 : ℚ) < den := Nat.cast_pos.mpr hd
  have below : (num / den : ℚ) < n + 1 / 2 ↔ 2 * num < (2 * n + 1) * den := by
    rw [div_lt_iff₀ positive, ← Nat.cast_lt (α := ℚ)]
    push_cast
    constructor <;> intro h <;> linarith
  have middle : (num / den : ℚ) = n + 1 / 2 ↔ 2 * num = (2 * n + 1) * den := by
    rw [div_eq_iff positive.ne', ← Nat.cast_inj (R := ℚ)]
    push_cast
    constructor <;> intro h <;> linarith
  rw [below, middle, roundedQuotient_le_iff_mul hd]

theorem roundedQuotient_mono (hd : 0 < den) (hd' : 0 < den')
    (h : (num / den : ℚ) ≤ num' / den') :
    roundedQuotient num den ≤ roundedQuotient num' den' := by
  rw [roundedQuotient_le_iff hd]
  rcases (roundedQuotient_le_iff hd').mp le_rfl with below | ⟨middle, even⟩
  · exact .inl (h.trans_lt below)
  · rcases h.lt_or_eq with less | same
    · exact .inl (less.trans_eq middle)
    · exact .inr ⟨same.trans middle, even⟩

theorem roundedQuotient_le (hd : 0 < den) (h : (num / den : ℚ) ≤ n) :
    roundedQuotient num den ≤ n :=
  (roundedQuotient_le_iff hd).mpr (.inl (by linarith))

theorem le_roundedQuotient (hd : 0 < den) (h : (n : ℚ) ≤ num / den) :
    n ≤ roundedQuotient num den := by
  by_contra less
  obtain ⟨m, rfl⟩ := Nat.exists_eq_add_one.mpr (Nat.zero_lt_of_lt (Nat.lt_of_not_le less))
  push_cast at h
  rcases (roundedQuotient_le_iff hd).mp (Nat.le_of_lt_succ (Nat.lt_of_not_le less)) with
    below | ⟨middle, -⟩ <;> linarith

/-! ### The power of two below a ratio -/

/-- The estimate from the lengths of numerator and denominator is at most one too great. -/
theorem floorLog_eq (num : Nat) (hd : 0 < den) :
    floorLog num den =
      if (num / den : ℚ) < 2 ^ ((num.log2 : Int) - den.log2) then (num.log2 : Int) - den.log2 - 1
      else (num.log2 : Int) - den.log2 := by
  have positive : (0 : ℚ) < den := Nat.cast_pos.mpr hd
  unfold floorLog
  generalize (num.log2 : Int) - den.log2 = k
  simp only [Nat.pow_eq]
  rw [← pow_toNat_div_pow_toNat]
  -- The power of two stands on the side on which its exponent is not negative.
  by_cases sign : 0 ≤ k
  · have none : (-k).toNat = 0 := Int.toNat_of_nonpos (by omega)
    have same : (num / den : ℚ) < 2 ^ k.toNat / 2 ^ (-k).toNat ↔
        num < den * 2 ^ k.toNat := by
      rw [none, pow_zero, div_one, div_lt_iff₀ positive, ← Nat.cast_lt (α := ℚ)]
      push_cast
      rw [mul_comm]
    simp only [sign, if_true, same]
  · have none : k.toNat = 0 := Int.toNat_of_nonpos (by omega)
    have same : (num / den : ℚ) < 2 ^ k.toNat / 2 ^ (-k).toNat ↔
        num * 2 ^ (-k).toNat < den := by
      rw [none, pow_zero, div_lt_div_iff₀ positive (by positivity), one_mul,
        ← Nat.cast_lt (α := ℚ)]
      push_cast
      exact Iff.rfl
    simp only [sign, if_false, same]

/-- The ratio lies between this power of two and the next one. -/
theorem floorLog_bounds (hn : 0 < num) (hd : 0 < den) :
    (2 : ℚ) ^ floorLog num den ≤ num / den ∧ (num / den : ℚ) < 2 ^ (floorLog num den + 1) := by
  have positive : (0 : ℚ) < den := Nat.cast_pos.mpr hd
  -- Both lengths give the ratio up to a factor of four, and the comparison decides which half.
  have numLow : (2 : ℚ) ^ num.log2 ≤ num := by exact_mod_cast Nat.log2_self_le hn.ne'
  have numHigh : (num : ℚ) < 2 ^ (num.log2 + 1) := by exact_mod_cast Nat.lt_log2_self
  have denLow : (2 : ℚ) ^ den.log2 ≤ den := by exact_mod_cast Nat.log2_self_le hd.ne'
  have denHigh : (den : ℚ) < 2 ^ (den.log2 + 1) := by exact_mod_cast Nat.lt_log2_self
  have low : (2 : ℚ) ^ ((num.log2 : Int) - den.log2 - 1) ≤ num / den := by
    rw [le_div_iff₀ positive]
    calc (2 : ℚ) ^ ((num.log2 : Int) - den.log2 - 1) * den
        ≤ 2 ^ ((num.log2 : Int) - den.log2 - 1) * 2 ^ (den.log2 + 1) := by gcongr
      _ = 2 ^ num.log2 := by
        rw [← zpow_natCast, ← zpow_natCast, ← zpow_add₀ (by norm_num)]
        congr 1
        push_cast
        ring
      _ ≤ num := numLow
  have high : (num / den : ℚ) < 2 ^ ((num.log2 : Int) - den.log2 + 1) := by
    rw [div_lt_iff₀ positive]
    calc (num : ℚ)
        < 2 ^ (num.log2 + 1) := numHigh
      _ = 2 ^ ((num.log2 : Int) - den.log2 + 1) * 2 ^ den.log2 := by
        rw [← zpow_natCast, ← zpow_natCast, ← zpow_add₀ (by norm_num)]
        congr 1
        push_cast
        ring
      _ ≤ 2 ^ ((num.log2 : Int) - den.log2 + 1) * den := by gcongr
  rw [floorLog_eq num hd]
  split
  next less =>
    rw [sub_add_cancel]
    exact ⟨low, less⟩
  next more => exact ⟨le_of_not_gt more, high⟩

theorem floorLog_mono (hn : 0 < num) (hd : 0 < den) (hn' : 0 < num') (hd' : 0 < den')
    (h : (num / den : ℚ) ≤ num' / den') : floorLog num den ≤ floorLog num' den' := by
  have between : (2 : ℚ) ^ floorLog num den < 2 ^ (floorLog num' den' + 1) :=
    (floorLog_bounds hn hd).1.trans_lt (h.trans_lt (floorLog_bounds hn' hd').2)
  rw [zpow_lt_zpow_iff_right₀ (by norm_num)] at between
  omega

/-! ### The bits of a ratio -/

/-- The exponent of the last place that is kept: the fifty-third one, or the last of all. -/
def lastPlace (num den : Nat) : Int := max (floorLog num den - 52) (-1074)

/-- The bits are those of the exponent of the last place and, on top of them, the digits up to this
place. -/
theorem ratioBits_eq (hn : 0 < num) (hd : 0 < den) :
    ∃ n d : Nat, 0 < d ∧ (n / d : ℚ) = num / den / 2 ^ lastPlace num den ∧
      ratioBits num den =
        min infinityBits
          ((lastPlace num den + 1074).toNat * exponentWeight + roundedQuotient n d) := by
  unfold ratioBits
  rw [if_neg hn.ne']
  change ∃ n d : Nat, 0 < d ∧ (n / d : ℚ) = num / den / 2 ^ lastPlace num den ∧
    min infinityBits ((lastPlace num den + 1074).toNat * exponentWeight +
      if 0 ≤ lastPlace num den then
        roundedQuotient num (den * Nat.pow 2 (lastPlace num den).toNat)
      else roundedQuotient (num * Nat.pow 2 (-lastPlace num den).toNat) den) = _
  simp only [Nat.pow_eq]
  generalize lastPlace num den = e
  rw [← pow_toNat_div_pow_toNat]
  -- Either the denominator or the numerator is multiplied, so both stay natural numbers.
  by_cases sign : 0 ≤ e
  · refine ⟨num, den * 2 ^ e.toNat, by positivity, ?_, by rw [if_pos sign]⟩
    rw [Int.toNat_of_nonpos (by omega : -e ≤ 0), pow_zero, div_one, div_div]
    push_cast
    rfl
  · refine ⟨num * 2 ^ (-e).toNat, den, hd, ?_, by rw [if_neg sign]⟩
    rw [Int.toNat_of_nonpos (by omega : e ≤ 0), pow_zero]
    push_cast
    field_simp

/-- At most fifty-three digits are kept. -/
theorem div_lastPlace_lt (hn : 0 < num) (hd : 0 < den) :
    (num / den / 2 ^ lastPlace num den : ℚ) < 2 ^ 53 := by
  have kept : floorLog num den + 1 ≤ 53 + lastPlace num den := by
    have := le_max_left (floorLog num den - 52) (-1074)
    unfold lastPlace
    omega
  rw [div_lt_iff₀ (by positivity), ← zpow_natCast, ← zpow_add₀ (by norm_num)]
  refine (floorLog_bounds hn hd).2.trans_le ?_
  exact zpow_le_zpow_right₀ (by norm_num) kept

/-- All fifty-three digits are kept of a number that is above the last place of all. -/
theorem le_div_lastPlace (hn : 0 < num) (hd : 0 < den) (normal : -1074 < lastPlace num den) :
    (2 : ℚ) ^ 52 ≤ num / den / 2 ^ lastPlace num den := by
  have kept : 52 + lastPlace num den = floorLog num den := by
    unfold lastPlace at *
    omega
  rw [le_div_iff₀ (by positivity), ← zpow_natCast, ← zpow_add₀ (by norm_num)]
  exact kept ▸ (floorLog_bounds hn hd).1

/-- **Rounding is monotone.** -/
theorem ratioBits_mono (hd : 0 < den) (hd' : 0 < den') (h : (num / den : ℚ) ≤ num' / den') :
    ratioBits num den ≤ ratioBits num' den' := by
  rcases Nat.eq_zero_or_pos num with rfl | hn
  · simp [ratioBits]
  have hn' : 0 < num' := by
    have positive : (0 : ℚ) < num' / den' := lt_of_lt_of_le (by positivity) h
    exact_mod_cast (div_pos_iff_of_pos_right (Nat.cast_pos.mpr hd')).mp positive
  obtain ⟨n, d, pos, scaled, bits⟩ := ratioBits_eq hn hd
  obtain ⟨n', d', pos', scaled', bits'⟩ := ratioBits_eq hn' hd'
  have places : lastPlace num den ≤ lastPlace num' den' :=
    max_le_max_right _ (sub_le_sub_right (floorLog_mono hn hd hn' hd' h) 52)
  rw [bits, bits']
  refine min_le_min_left infinityBits ?_
  rcases places.eq_or_lt with same | less
  · -- both are divided by the same power of two
    have quotients : (n / d : ℚ) ≤ n' / d' := by
      rw [scaled, scaled', same]
      gcongr
    rw [same]
    exact Nat.add_le_add_left (roundedQuotient_mono pos pos' quotients) _
  · -- what the smaller ratio has more in digits, the greater one has more in its exponent
    have least : -1074 ≤ lastPlace num den := le_max_right _ _
    have digits : roundedQuotient n d ≤ 2 ^ 53 := by
      refine roundedQuotient_le pos ?_
      rw [scaled]
      exact_mod_cast (div_lastPlace_lt hn hd).le
    have digits' : 2 ^ 52 ≤ roundedQuotient n' d' := by
      refine le_roundedQuotient pos' ?_
      rw [scaled']
      exact_mod_cast le_div_lastPlace hn' hd' (by omega)
    unfold exponentWeight
    omega

theorem ratioBits_le (num den : Nat) : ratioBits num den ≤ infinityBits := by
  unfold ratioBits
  split
  · exact Nat.zero_le _
  · exact min_le_left _ _

@[simp] theorem magnitude_ofRatio (num den : Nat) :
    (ofRatio num den).magnitude = ratioBits num den := by
  have small : ratioBits num den < signWeight :=
    Nat.lt_of_le_of_lt (ratioBits_le num den) (by decide)
  have word : ratioBits num den < 2 ^ 64 := Nat.lt_trans small (by decide)
  rw [ofRatio, ofMagnitude, magnitude, if_neg Bool.false_ne_true, Nat.add_zero,
    Nat.mod_eq_of_lt small, UInt64.toNat_ofNat_of_lt' word, Nat.mod_eq_of_lt small]

/-! ### Values -/

variable {x y x' y' : Binary64}

/-- The value of a finite magnitude. -/
def value (x : Binary64) : ℚ := x.significand * 2 ^ x.scale

theorem value_nonneg (x : Binary64) : 0 ≤ x.value := by
  unfold value
  positivity

theorem denominator_pos (x : Binary64) : 0 < x.denominator := by
  rw [denominator, Nat.pow_eq]
  positivity

theorem numerator_div_denominator (x : Binary64) :
    (x.numerator / x.denominator : ℚ) = x.value := by
  rw [numerator, denominator, value, ← pow_toNat_div_pow_toNat, Nat.pow_eq, Nat.pow_eq]
  push_cast
  rw [mul_div_assoc]

/-- The significand has at most fifty-three digits. -/
theorem significand_lt (x : Binary64) : x.significand < 2 ^ 53 := by
  have fraction := Nat.mod_lt x.magnitude (by decide : 0 < exponentWeight)
  have division := Nat.div_add_mod x.magnitude exponentWeight
  unfold significand
  unfold exponentWeight at *
  split <;> omega

/-- A number lies below the least one with the next exponent. -/
theorem value_lt (x : Binary64) :
    x.value < 2 ^ 52 * 2 ^ (((x.magnitude / exponentWeight : Nat) : Int) + 1 - 1075) := by
  have positive (e : Int) : (0 : ℚ) < 2 ^ e := zpow_pos (by norm_num) e
  unfold value scale
  by_cases subnormal : x.magnitude / exponentWeight = 0
  · have small : x.significand < 2 ^ 52 := by
      rw [significand, if_pos subnormal]
      exact (Nat.div_eq_zero_iff.mp subnormal).resolve_left (by decide)
    rw [if_pos subnormal, subnormal]
    exact mul_lt_mul_of_pos_right (by exact_mod_cast small) (positive _)
  · rw [if_neg subnormal]
    generalize ((x.magnitude / exponentWeight : Nat) : Int) = e
    have next : (2 : ℚ) ^ 52 * 2 ^ (e + 1 - 1075) = 2 ^ 53 * 2 ^ (e - 1075) := by
      rw [(by ring : e + 1 - 1075 = e - 1075 + 1), zpow_add_one₀ (by norm_num)]
      ring
    rw [next]
    exact mul_lt_mul_of_pos_right (by exact_mod_cast x.significand_lt) (positive _)

/-- A normal number is at least the least one with its exponent. -/
theorem le_value (normal : x.magnitude / exponentWeight ≠ 0) :
    (2 : ℚ) ^ 52 * 2 ^ (((x.magnitude / exponentWeight : Nat) : Int) - 1075) ≤ x.value := by
  have leading : 2 ^ 52 ≤ x.significand := by
    rw [significand, if_neg normal]
    exact Nat.le_add_left _ _
  rw [value, scale, if_neg normal]
  exact mul_le_mul_of_nonneg_right (by exact_mod_cast leading)
    (zpow_pos (by norm_num) _).le

/-- The greater of two magnitudes has the greater value. -/
theorem value_le_value (h : x.magnitude ≤ y.magnitude) : x.value ≤ y.value := by
  have exponents : x.magnitude / exponentWeight ≤ y.magnitude / exponentWeight :=
    Nat.div_le_div_right h
  rcases exponents.eq_or_lt with same | less
  · -- the exponents are the same, so the fractions decide
    have fractions : x.magnitude % exponentWeight ≤ y.magnitude % exponentWeight := by
      unfold exponentWeight at *
      omega
    have significands : x.significand ≤ y.significand := by
      unfold significand
      rw [same]
      split
      · exact h
      · exact Nat.add_le_add_right fractions _
    have scales : x.scale = y.scale := by rw [scale, scale, same]
    rw [value, value, scales]
    exact mul_le_mul_of_nonneg_right (by exact_mod_cast significands)
      (zpow_pos (by norm_num) _).le
  · calc x.value
        ≤ 2 ^ 52 * 2 ^ (((x.magnitude / exponentWeight : Nat) : Int) + 1 - 1075) := x.value_lt.le
      _ ≤ 2 ^ 52 * 2 ^ (((y.magnitude / exponentWeight : Nat) : Int) - 1075) := by
        refine mul_le_mul_of_nonneg_left (zpow_le_zpow_right₀ (by norm_num) ?_) (by positivity)
        omega
      _ ≤ y.value := le_value (Nat.ne_zero_of_lt less)

/-- Products of greater magnitudes are greater. -/
theorem magnitude_mul_mono (hx : x.magnitude ≤ x'.magnitude) (hy : y.magnitude ≤ y'.magnitude) :
    (x.mul y).magnitude ≤ (x'.mul y').magnitude := by
  have product (a b : Binary64) : ((a.numerator * b.numerator : Nat) /
      (a.denominator * b.denominator : Nat) : ℚ) = a.value * b.value := by
    push_cast
    rw [mul_div_mul_comm, numerator_div_denominator, numerator_div_denominator]
  rw [mul, mul, magnitude_ofRatio, magnitude_ofRatio]
  refine ratioBits_mono (Nat.mul_pos x.denominator_pos y.denominator_pos)
    (Nat.mul_pos x'.denominator_pos y'.denominator_pos) ?_
  rw [product, product]
  exact mul_le_mul (value_le_value hx) (value_le_value hy) y.value_nonneg x'.value_nonneg

/-- The greater of two natural numbers has the greater magnitude. -/
theorem magnitude_ofNat_mono {m n : Nat} (h : m ≤ n) :
    (ofNat m).magnitude ≤ (ofNat n).magnitude := by
  rw [ofNat, ofNat, magnitude_ofRatio, magnitude_ofRatio]
  refine ratioBits_mono Nat.one_pos Nat.one_pos ?_
  gcongr

/-- A number below a finite one is finite. -/
theorem isFinite_of_le (h : x.magnitude ≤ y.magnitude) (finite : y.isFinite = true) :
    x.isFinite = true := by
  unfold isFinite at *
  rw [decide_eq_true_eq] at *
  exact Nat.lt_of_le_of_lt h finite

end Recordwright.Binary64
