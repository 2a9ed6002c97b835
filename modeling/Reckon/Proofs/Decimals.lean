import Mathlib.Algebra.Order.Floor.Semifield
import Reckon.Numeral.Shortest
import Reckon.Proofs.Rounding

/-! Decimals by their value. Which double a decimal names depends on its value alone, and where the
value is a double's it is that double. So a double reads back from all of its digits, and from the
fewest that were found to do as well; and those are of its own order of magnitude. -/
namespace Reckon.Numeral

/-! Whole numbers and quotients among the powers of ten. -/

theorem tenTo_pos (n : ℕ) : 0 < tenTo n := Nat.pow_pos (by norm_num)

theorem digitCount_pos (n : ℕ) : 0 < digitCount n := Nat.length_toDigits_pos

theorem lt_pow_digitCount (n : ℕ) : n < 10 ^ digitCount n :=
  (Nat.length_toDigits_le_iff (by norm_num) (digitCount_pos n)).1 le_rfl

theorem pow_le_of_ne_zero {n : ℕ} (h : n ≠ 0) : 10 ^ (digitCount n - 1) ≤ n := by
  have hpos := digitCount_pos n
  by_cases hone : digitCount n = 1
  · rw [hone]
    exact Nat.pos_of_ne_zero h
  · refine not_lt.1 fun hlt => ?_
    have hfewer : digitCount n ≤ digitCount n - 1 :=
      (Nat.length_toDigits_le_iff (by norm_num) (by omega)).2 hlt
    omega

theorem log_natCast {n : ℕ} (h : n ≠ 0) : Int.log 10 (n : ℚ) = digitCount n - 1 := by
  have hpos := digitCount_pos n
  have hpred : (digitCount n : ℤ) - 1 = (digitCount n - 1 : ℕ) := by omega
  have hlow : ((10 : ℕ) : ℚ) ^ (digitCount n - 1) ≤ n := by exact_mod_cast pow_le_of_ne_zero h
  have hhigh : (n : ℚ) < ((10 : ℕ) : ℚ) ^ digitCount n := by exact_mod_cast lt_pow_digitCount n
  refine log_eq_of_bounds (by norm_num) (Nat.cast_pos.2 (Nat.pos_of_ne_zero h)) ?_ ?_
  · rwa [hpred, zpow_natCast]
  · rwa [sub_add_cancel, zpow_natCast]

theorem decimalOrder_eq_log {num den : ℕ} (hnum : 0 < num) (hden : 0 < den) :
    decimalOrder num den = Int.log 10 ((num : ℚ) / den) := by
  have hnum' : (0 : ℚ) < num := by exact_mod_cast hnum
  have hden' : (0 : ℚ) < den := by exact_mod_cast hden
  unfold decimalOrder
  split
  · next hle =>
    have hne : num / den ≠ 0 := (Nat.div_pos hle hden).ne'
    have hle' : (1 : ℚ) ≤ num / den := by
      rw [le_div_iff₀ hden', one_mul]
      exact_mod_cast hle
    rw [Int.log_of_one_le_right 10 hle', ← log_natCast hne, Int.log_natCast, Nat.floor_div_eq_div]
  · next hlt =>
    -- Below one, what is counted are the digits of the greatest whole number below the reciprocal.
    have hne : (den - 1) / num ≠ 0 := (Nat.div_pos (by omega) hnum).ne'
    have hlow := pow_le_of_ne_zero hne
    have hhigh := lt_pow_digitCount ((den - 1) / num)
    have hpos := digitCount_pos ((den - 1) / num)
    rw [Nat.le_div_iff_mul_le hnum] at hlow
    rw [Nat.div_lt_iff_lt_mul hnum] at hhigh
    generalize digitCount ((den - 1) / num) = k at hlow hhigh hpos ⊢
    refine (log_eq_of_bounds (by norm_num) (div_pos hnum' hden') ?_ ?_).symm
    · have hle : den ≤ 10 ^ k * num := by omega
      rw [zpow_neg, zpow_natCast, inv_le_comm₀ (by positivity) (by positivity), inv_div,
        div_le_iff₀ hnum']
      exact_mod_cast hle
    · have hlt : 10 ^ (k - 1) * num < den := by omega
      have hpred : -(k : ℤ) + 1 = -((k - 1 : ℕ) : ℤ) := by omega
      rw [hpred, zpow_neg, zpow_natCast, lt_inv_comm₀ (by positivity) (by positivity), inv_div,
        lt_div_iff₀ hnum']
      exact_mod_cast hlt

namespace Decimal

def value (c : Decimal) : ℚ := c.coefficient * 10 ^ c.exponent

variable {c c' : Decimal}

theorem value_eq_zero_iff : c.value = 0 ↔ c.coefficient = 0 := by
  have hne : (10 : ℚ) ^ c.exponent ≠ 0 := zpow_ne_zero _ (by norm_num)
  rw [value, mul_eq_zero, or_iff_left hne, Nat.cast_eq_zero]

theorem order_eq_log (h : c.coefficient ≠ 0) : c.order = Int.log 10 c.value := by
  have hn : (0 : ℚ) < c.coefficient := Nat.cast_pos.2 (Nat.pos_of_ne_zero h)
  have hlog : Int.log 10 c.value = digitCount c.coefficient - 1 + c.exponent := by
    rw [← log_natCast h]
    exact_mod_cast log_mul_zpow (by norm_num) hn c.exponent
  rw [order, hlog]
  ring

theorem num_div_den (c : Decimal) :
    ((c.coefficient * tenTo c.exponent.toNat : ℕ) : ℚ) / (tenTo (-c.exponent).toNat : ℕ) =
      c.value := by
  simp only [value, zpow_eq_div, tenTo, Nat.pow_eq]
  push_cast
  rw [mul_div_assoc]

theorem bits_congr (h : c.value = c'.value) : c.bits = c'.bits := by
  have hzero : c.coefficient = 0 ↔ c'.coefficient = 0 := by
    rw [← value_eq_zero_iff, h, value_eq_zero_iff]
  by_cases hc : c.coefficient = 0
  · simp only [bits, if_pos hc, if_pos (hzero.1 hc)]
  · have hc' := mt hzero.2 hc
    have horder : c.order = c'.order := by rw [order_eq_log hc, order_eq_log hc', h]
    have hnearest := nearestBits_congr (tenTo_pos _) (tenTo_pos _)
      (c.num_div_den.trans (h.trans c'.num_div_den.symm))
    simp only [bits, if_neg hc, if_neg hc', horder]
    rw [hnearest]

end Decimal

/-! The doubles among the decimals. -/

namespace Dyadic
variable {d : Dyadic}

theorem value_toDecimal (d : Dyadic) : d.toDecimal.value = d.value := by
  have hten : (10 : ℚ) ^ (-d.exponent).toNat =
      5 ^ (-d.exponent).toNat * 2 ^ (-d.exponent).toNat := by
    rw [← mul_pow]
    norm_num
  have hfive : (5 : ℚ) ^ (-d.exponent).toNat ≠ 0 := pow_ne_zero _ (by norm_num)
  simp only [toDecimal, Decimal.value, value, num, zpow_eq_div 2, zpow_neg, zpow_natCast, hten,
    twoTo, Nat.pow_eq]
  push_cast
  field_simp

theorem Canonical.value_lt (hd : d.Canonical) : d.value < 2 ^ 1024 := by
  have hfits : (d.significand : ℚ) < 2 ^ 53 := by exact_mod_cast hd.fits
  have hmost : (2 : ℚ) ^ d.exponent ≤ 2 ^ (971 : ℤ) := zpow_le_zpow_right₀ (by norm_num) hd.most
  calc d.value < 2 ^ 53 * 2 ^ d.exponent := mul_lt_mul_of_pos_right hfits (zpow_pos two_pos _)
    _ ≤ 2 ^ 53 * 2 ^ (971 : ℤ) := mul_le_mul_of_nonneg_left hmost (by positivity)
    _ = 2 ^ 1024 := by rw [zpow_ofNat, ← pow_add]

theorem Canonical.le_value (hd : d.Canonical) (h : d.significand ≠ 0) :
    ((2 : ℚ) ^ 1074)⁻¹ ≤ d.value := by
  have hone : (1 : ℚ) ≤ d.significand := by exact_mod_cast Nat.pos_of_ne_zero h
  have hleast : (2 : ℚ) ^ (-1074 : ℤ) ≤ 2 ^ d.exponent := zpow_le_zpow_right₀ (by norm_num) hd.least
  calc ((2 : ℚ) ^ 1074)⁻¹ = 2 ^ (-1074 : ℤ) := by rw [zpow_neg, zpow_ofNat]
    _ ≤ 2 ^ d.exponent := hleast
    _ ≤ d.value := le_mul_of_one_le_left (zpow_pos two_pos _).le hone

theorem Canonical.log_range (hd : d.Canonical) (h : d.significand ≠ 0) :
    -330 ≤ Int.log 10 d.value ∧ Int.log 10 d.value ≤ 310 := by
  have hpos := value_pos h
  have hlow : ((10 : ℕ) : ℚ) ^ (-330 : ℤ) ≤ d.value := by
    have hpow : (2 : ℚ) ^ 1074 ≤ 10 ^ 330 := by
      exact_mod_cast (by decide +kernel : 2 ^ 1074 ≤ 10 ^ 330)
    refine le_trans ?_ (hd.le_value h)
    rw [zpow_neg, zpow_ofNat]
    exact inv_anti₀ (by positivity) hpow
  have hhigh : d.value < ((10 : ℕ) : ℚ) ^ (311 : ℤ) := by
    have hpow : (2 : ℚ) ^ 1024 ≤ 10 ^ 311 := by
      exact_mod_cast (by decide +kernel : 2 ^ 1024 ≤ 10 ^ 311)
    rw [zpow_ofNat]
    exact lt_of_lt_of_le hd.value_lt hpow
  have hle := (Int.zpow_le_iff_le_log (by norm_num) hpos).1 hlow
  have hlt := (Int.lt_zpow_iff_log_lt (by norm_num) hpos).1 hhigh
  omega

end Dyadic

theorem Decimal.bits_of_value {c : Decimal} {d : Dyadic} (hd : d.Canonical)
    (h : c.value = d.value) : c.bits = d.bits := by
  by_cases hzero : d.significand = 0
  · have hc : c.coefficient = 0 := by
      rw [← value_eq_zero_iff, h, Dyadic.value, hzero, Nat.cast_zero, zero_mul]
    rw [bits, if_pos hc, Dyadic.bits_zero hd hzero]
  · have hc : c.coefficient ≠ 0 := by
      rw [Ne, ← value_eq_zero_iff, h]
      exact (Dyadic.value_pos hzero).ne'
    have hrange := hd.log_range hzero
    have horder := order_eq_log hc
    rw [h] at horder
    rw [bits, if_neg hc, if_neg (by omega), if_neg (by omega), ← hd.nearestBits]
    exact nearestBits_congr (tenTo_pos _) d.den_pos
      (c.num_div_den.trans (h.trans d.num_div_den.symm))

/-! The fewest digits. -/

section
variable {d : Dyadic}

theorem bits_shortest (hd : d.Canonical) : (shortest d.bits d).bits = d.bits := by
  unfold shortest
  split
  · next hzero => exact (Dyadic.bits_zero hd hzero).symm
  · exact bits_firstGrid (Decimal.bits_of_value hd d.value_toDecimal) 17 _

theorem inUnits_div (num : ℕ) {den : ℕ} (hden : 0 < den) (exponent : ℤ) :
    ((inUnits num den exponent).1 : ℚ) / (inUnits num den exponent).2 =
      num / den / 10 ^ exponent := by
  have hden' : (den : ℚ) ≠ 0 := by exact_mod_cast hden.ne'
  simp only [inUnits, zpow_eq_div, tenTo, Nat.pow_eq]
  push_cast
  field_simp

theorem mem_neighbours {num den n : ℕ} (h : n ∈ neighbours num den) :
    num / den ≤ n ∧ n ≤ num / den + 1 := by
  have hround : roundDiv num den = num / den ∨ roundDiv num den = num / den + 1 := by
    unfold roundDiv
    simp only
    split
    · exact .inr rfl
    · exact .inl rfl
  simp only [neighbours, List.mem_cons, List.not_mem_nil, or_false] at h
  obtain rfl | rfl := h
  · omega
  · split <;> omega

/-- On a grid that is no coarser than the order of the value, no neighbour is of a lower order or
more than twice as great. -/
theorem value_of_onGrid? {bits : ℕ} {exponent : ℤ} {c : Decimal} (h : d.significand ≠ 0)
    (hexponent : exponent ≤ Int.log 10 d.value) (hc : onGrid? bits d exponent = some c) :
    10 ^ Int.log 10 d.value ≤ c.value ∧ c.value ≤ 2 * d.value := by
  have hunit : (0 : ℚ) < 10 ^ exponent := zpow_pos (by norm_num) _
  have hfloor : (inUnits d.num d.den exponent).1 / (inUnits d.num d.den exponent).2 =
      ⌊d.value / 10 ^ exponent⌋₊ := by
    rw [← Nat.floor_div_eq_div (K := ℚ), inUnits_div d.num d.den_pos, d.num_div_den]
  obtain ⟨n, hn, rfl⟩ := List.mem_map.1 (List.mem_of_find?_eq_some hc)
  have hnear : ⌊d.value / 10 ^ exponent⌋₊ ≤ n ∧ n ≤ ⌊d.value / 10 ^ exponent⌋₊ + 1 := by
    rw [← hfloor]
    exact mem_neighbours hn
  -- The order of the value is a whole number of units, and the value is not below it.
  obtain ⟨k, hk⟩ := Int.le.dest hexponent
  have hsplit : (10 : ℚ) ^ Int.log 10 d.value = 10 ^ k * 10 ^ exponent := by
    rw [← hk, zpow_add₀ (by norm_num), zpow_natCast, mul_comm]
  have hlog : (10 : ℚ) ^ Int.log 10 d.value ≤ d.value := by
    exact_mod_cast Int.zpow_log_le_self (b := 10) (by norm_num) (Dyadic.value_pos h)
  have hpow : 10 ^ k ≤ ⌊d.value / 10 ^ exponent⌋₊ := by
    refine Nat.le_floor ?_
    rw [le_div_iff₀ hunit]
    push_cast
    rwa [← hsplit]
  have hbelow : (⌊d.value / 10 ^ exponent⌋₊ : ℚ) * 10 ^ exponent ≤ d.value := by
    rw [← le_div_iff₀ hunit]
    exact Nat.floor_le (div_pos (Dyadic.value_pos h) hunit).le
  have hone : 1 ≤ 10 ^ k := Nat.one_le_pow _ _ (by norm_num)
  have hlow : (10 : ℚ) ^ k ≤ n := by exact_mod_cast hpow.trans hnear.1
  have hhigh : (n : ℚ) ≤ 2 * ⌊d.value / 10 ^ exponent⌋₊ := by exact_mod_cast (by omega)
  constructor
  · rw [hsplit]
    exact mul_le_mul_of_nonneg_right hlow hunit.le
  · calc (n : ℚ) * 10 ^ exponent ≤ 2 * ⌊d.value / 10 ^ exponent⌋₊ * 10 ^ exponent :=
          mul_le_mul_of_nonneg_right hhigh hunit.le
      _ = 2 * (⌊d.value / 10 ^ exponent⌋₊ * 10 ^ exponent) := mul_assoc _ _ _
      _ ≤ 2 * d.value := mul_le_mul_of_nonneg_left hbelow two_pos.le

theorem value_firstGrid (bits : ℕ) (h : d.significand ≠ 0) (count : ℕ) {exponent : ℤ}
    (hexponent : exponent ≤ Int.log 10 d.value) :
    10 ^ Int.log 10 d.value ≤ (firstGrid bits d exponent count).value ∧
      (firstGrid bits d exponent count).value ≤ 2 * d.value := by
  induction count generalizing exponent with
  | zero =>
    have hpos := Dyadic.value_pos h
    rw [firstGrid, d.value_toDecimal]
    refine ⟨?_, by linarith⟩
    exact_mod_cast Int.zpow_log_le_self (b := 10) (by norm_num) hpos
  | succ count ih =>
    rw [firstGrid]
    cases hc : onGrid? bits d exponent with
    | none => exact ih (by omega)
    | some c => exact value_of_onGrid? h hexponent hc

/-- The fewest digits begin at the order of the value, or at the next one if the value is at least
half of its power of ten. -/
theorem order_shortest (bits : ℕ) (h : d.significand ≠ 0) :
    Int.log 10 d.value ≤ (shortest bits d).order ∧
      (shortest bits d).order ≤ Int.log 10 (2 * d.value) := by
  have hnum : 0 < d.num := Nat.mul_pos (Nat.pos_of_ne_zero h) (Nat.two_pow_pos _)
  have horder : decimalOrder d.num d.den = Int.log 10 d.value := by
    rw [decimalOrder_eq_log hnum d.den_pos, d.num_div_den]
  obtain ⟨hlow, hhigh⟩ := value_firstGrid bits h 17 horder.le
  rw [shortest, if_neg h]
  generalize firstGrid bits d (decimalOrder d.num d.den) 17 = c at hlow hhigh
  have hpos : 0 < c.value := lt_of_lt_of_le (zpow_pos (by norm_num) _) hlow
  have hc : c.coefficient ≠ 0 := mt Decimal.value_eq_zero_iff.2 hpos.ne'
  rw [Decimal.order_eq_log hc]
  constructor
  · refine (Int.zpow_le_iff_le_log (by norm_num) hpos).1 ?_
    exact_mod_cast hlow
  · exact Int.log_mono_right hpos hhigh

end

end Reckon.Numeral
