import Mathlib.Data.Int.Log
import Mathlib.Data.Rat.Floor
import Mathlib.Tactic.GCongr
import Mathlib.Tactic.Linarith
import Mathlib.Tactic.Positivity
import Mathlib.Tactic.NormNum
import Mathlib.Tactic.Ring
import Reckon.Numeral.Dyadic

/-! Rounding to the nearest double. All that counts is the value of a quotient, in whatever terms it
is given; and where that value is a double's, it is that double's bits that come out. -/
namespace Reckon.Numeral

/-! Powers with a sign in their exponent, and the order of a number among them. -/

theorem zpow_eq_div (b : ℚ) (k : ℤ) : b ^ k = b ^ k.toNat / b ^ (-k).toNat := by
  obtain hk | hk := le_total 0 k
  · have hback : (-k).toNat = 0 := by omega
    rw [hback, pow_zero, div_one, ← zpow_natCast, Int.toNat_of_nonneg hk]
  · have hforth : k.toNat = 0 := by omega
    have hk' : ((-k).toNat : ℤ) = -k := Int.toNat_of_nonneg (by omega)
    rw [hforth, pow_zero, one_div, ← zpow_natCast, hk', zpow_neg, inv_inv]

theorem natCast_zpow_pos {b : ℕ} (hb : 0 < b) (k : ℤ) : (0 : ℚ) < (b : ℚ) ^ k :=
  zpow_pos (Nat.cast_pos.2 hb) k

theorem log_eq_of_bounds {b : ℕ} (hb : 1 < b) {q : ℚ} (hq : 0 < q) {k : ℤ} (hlow : (b : ℚ) ^ k ≤ q)
    (hhigh : q < (b : ℚ) ^ (k + 1)) : Int.log b q = k := by
  have hle := (Int.zpow_le_iff_le_log hb hq).1 hlow
  have hlt := (Int.lt_zpow_iff_log_lt hb hq).1 hhigh
  omega

theorem log_mul_zpow {b : ℕ} (hb : 1 < b) {q : ℚ} (hq : 0 < q) (k : ℤ) :
    Int.log b (q * (b : ℚ) ^ k) = Int.log b q + k := by
  have hb' : (b : ℚ) ≠ 0 := by
    have : b ≠ 0 := by omega
    exact_mod_cast this
  have hk : (0 : ℚ) < (b : ℚ) ^ k := natCast_zpow_pos (by omega) k
  refine log_eq_of_bounds hb (mul_pos hq hk) ?_ ?_
  · rw [zpow_add₀ hb']
    exact mul_le_mul_of_nonneg_right (Int.zpow_log_le_self hb hq) hk.le
  · rw [add_right_comm, zpow_add₀ hb']
    exact mul_lt_mul_of_pos_right (Int.lt_zpow_succ_log_self hb q) hk

theorem div_lt_zpow_iff {b num den : ℕ} (hb : 0 < b) (hden : 0 < den) (k : ℤ) :
    (num : ℚ) / den < (b : ℚ) ^ k ↔ num * b ^ (-k).toNat < den * b ^ k.toNat := by
  have hb' : (0 : ℚ) < b := by exact_mod_cast hb
  have hden' : (0 : ℚ) < den := by exact_mod_cast hden
  rw [zpow_eq_div, div_lt_div_iff₀ hden' (by positivity), mul_comm ((b : ℚ) ^ k.toNat)]
  exact_mod_cast Iff.rfl

section
variable {num den : ℕ}

theorem binaryOrder_eq_log (hnum : 0 < num) (hden : 0 < den) :
    binaryOrder num den = Int.log 2 ((num : ℚ) / den) := by
  have hnum' : (0 : ℚ) < num := by exact_mod_cast hnum
  have hden' : (0 : ℚ) < den := by exact_mod_cast hden
  have hq : (0 : ℚ) < num / den := div_pos hnum' hden'
  have hnumLow : ((2 : ℕ) : ℚ) ^ num.log2 ≤ num := by exact_mod_cast Nat.log2_self_le hnum.ne'
  have hnumHigh : (num : ℚ) < ((2 : ℕ) : ℚ) ^ (num.log2 + 1) := by
    exact_mod_cast Nat.lt_log2_self (n := num)
  have hdenLow : ((2 : ℕ) : ℚ) ^ den.log2 ≤ den := by exact_mod_cast Nat.log2_self_le hden.ne'
  have hdenHigh : (den : ℚ) < ((2 : ℕ) : ℚ) ^ (den.log2 + 1) := by
    exact_mod_cast Nat.lt_log2_self (n := den)
  have hbelow : ((2 : ℕ) : ℚ) ^ ((num.log2 : ℤ) - den.log2 - 1) ≤ num / den := by
    rw [le_div_iff₀ hden']
    calc ((2 : ℕ) : ℚ) ^ ((num.log2 : ℤ) - den.log2 - 1) * den
        ≤ ((2 : ℕ) : ℚ) ^ ((num.log2 : ℤ) - den.log2 - 1) * ((2 : ℕ) : ℚ) ^ (den.log2 + 1) :=
          mul_le_mul_of_nonneg_left hdenHigh.le (natCast_zpow_pos two_pos _).le
      _ = ((2 : ℕ) : ℚ) ^ num.log2 := by
          rw [← zpow_natCast, ← zpow_natCast, ← zpow_add₀ (by norm_num)]
          congr 1
          push_cast
          ring
      _ ≤ num := hnumLow
  have habove : (num : ℚ) / den < ((2 : ℕ) : ℚ) ^ ((num.log2 : ℤ) - den.log2 + 1) := by
    rw [div_lt_iff₀ hden']
    calc (num : ℚ) < ((2 : ℕ) : ℚ) ^ (num.log2 + 1) := hnumHigh
      _ = ((2 : ℕ) : ℚ) ^ ((num.log2 : ℤ) - den.log2 + 1) * ((2 : ℕ) : ℚ) ^ den.log2 := by
          rw [← zpow_natCast, ← zpow_natCast, ← zpow_add₀ (by norm_num)]
          congr 1
          push_cast
          ring
      _ ≤ ((2 : ℕ) : ℚ) ^ ((num.log2 : ℤ) - den.log2 + 1) * den :=
          mul_le_mul_of_nonneg_left hdenLow (natCast_zpow_pos two_pos _).le
  simp only [binaryOrder, twoTo, Nat.pow_eq]
  split
  · next hless =>
    have hlt := (div_lt_zpow_iff (by norm_num) hden _).2 hless
    refine (log_eq_of_bounds (by norm_num) hq hbelow ?_).symm
    rwa [sub_add_cancel]
  · next hless =>
    have hle := not_lt.1 (mt (div_lt_zpow_iff (by norm_num) hden _).1 hless)
    exact (log_eq_of_bounds (by norm_num) hq hle habove).symm

theorem roundDiv_mul_right (num den : ℕ) {c : ℕ} (hc : 0 < c) :
    roundDiv (num * c) (den * c) = roundDiv num den := by
  have hmore : 2 * (num % den * c) > den * c ↔ 2 * (num % den) > den := by
    rw [gt_iff_lt, gt_iff_lt, ← mul_assoc]
    exact Nat.mul_lt_mul_right hc
  have hhalf : 2 * (num % den * c) = den * c ↔ 2 * (num % den) = den := by
    rw [← mul_assoc]
    exact Nat.mul_left_inj hc.ne'
  simp only [roundDiv, Nat.mul_div_mul_right _ _ hc, Nat.mul_mod_mul_right, hmore, beq_iff_eq,
    hhalf, Bool.or_eq_true, Bool.and_eq_true, decide_eq_true_eq]

theorem roundDiv_congr {a b a' b' : ℕ} (hb : 0 < b) (hb' : 0 < b') (h : a * b' = a' * b) :
    roundDiv a b = roundDiv a' b' := by
  rw [← roundDiv_mul_right a b hb', h, mul_comm b b', roundDiv_mul_right a' b' hb]

theorem nearestBits_congr {a b a' b' : ℕ} (hb : 0 < b) (hb' : 0 < b')
    (h : (a : ℚ) / b = a' / b') : nearestBits a b = nearestBits a' b' := by
  have hcross : a * b' = a' * b := by
    have hb₁ : (b : ℚ) ≠ 0 := by exact_mod_cast hb.ne'
    have hb₂ : (b' : ℚ) ≠ 0 := by exact_mod_cast hb'.ne'
    exact_mod_cast (div_eq_div_iff hb₁ hb₂).1 h
  by_cases ha : a = 0
  · have ha' : a' = 0 := by
      have : a' * b = 0 := by rw [← hcross, ha, zero_mul]
      exact (Nat.mul_eq_zero.1 this).resolve_right hb.ne'
    simp [nearestBits, ha, ha']
  · have ha' : a' ≠ 0 := by
      rintro rfl
      rw [zero_mul] at hcross
      exact (Nat.mul_ne_zero ha hb'.ne') hcross
    have horder : binaryOrder a b = binaryOrder a' b' := by
      rw [binaryOrder_eq_log (Nat.pos_of_ne_zero ha) hb,
        binaryOrder_eq_log (Nat.pos_of_ne_zero ha') hb', h]
    simp only [nearestBits, if_neg ha, if_neg ha', horder, twoTo, Nat.pow_eq]
    congr 2
    refine roundDiv_congr (by positivity) (by positivity) ?_
    rw [mul_mul_mul_comm, hcross, mul_mul_mul_comm]

end

/-! The doubles among the dyadics. -/

namespace Dyadic

def value (d : Dyadic) : ℚ := d.significand * 2 ^ d.exponent

/-- The exponent is in range, and the significand fills its bits unless the exponent is least. -/
structure Canonical (d : Dyadic) : Prop where
  least : -1074 ≤ d.exponent
  most : d.exponent ≤ 971
  fits : d.significand < twoTo 53
  full : twoTo 52 ≤ d.significand ∨ d.exponent = -1074

def bits (d : Dyadic) : ℕ := (d.exponent + 1074).toNat * twoTo 52 + d.significand

variable {d : Dyadic}

theorem num_div_den (d : Dyadic) : (d.num : ℚ) / d.den = d.value := by
  simp only [num, den, value, zpow_eq_div, twoTo, Nat.pow_eq]
  push_cast
  rw [mul_div_assoc]

theorem value_pos (h : d.significand ≠ 0) : 0 < d.value :=
  mul_pos (Nat.cast_pos.2 (Nat.pos_of_ne_zero h)) (zpow_pos two_pos _)

theorem bits_zero (hd : d.Canonical) (h : d.significand = 0) : d.bits = 0 := by
  have hleast : d.exponent = -1074 := by
    refine hd.full.resolve_left fun hfull => ?_
    rw [h] at hfull
    exact absurd hfull (by decide)
  simp [bits, h, hleast]

theorem Canonical.bits_le (hd : d.Canonical) : d.bits ≤ infinityBits := by
  have hmost := hd.most
  have hfits := hd.fits
  simp only [bits, infinityBits, twoTo, Nat.pow_eq] at hfits ⊢
  omega

theorem Canonical.log_value (hd : d.Canonical) (h : d.significand ≠ 0) :
    max (-1074) (Int.log 2 d.value - 52) = d.exponent := by
  have hpos := value_pos h
  have hhigh : d.value < ((2 : ℕ) : ℚ) ^ (d.exponent + 53) := by
    have hfits : (d.significand : ℚ) < 2 ^ 53 := by exact_mod_cast hd.fits
    rw [value, zpow_add₀ (by norm_num), mul_comm]
    exact mul_lt_mul_of_pos_left hfits (zpow_pos two_pos _)
  have hlog := (Int.lt_zpow_iff_log_lt (by norm_num) hpos).1 hhigh
  obtain hfull | hleast := hd.full
  · have hlow : ((2 : ℕ) : ℚ) ^ (d.exponent + 52) ≤ d.value := by
      have hfull' : (2 : ℚ) ^ 52 ≤ d.significand := by exact_mod_cast hfull
      rw [value, zpow_add₀ (by norm_num), mul_comm (d.significand : ℚ)]
      exact mul_le_mul_of_nonneg_left hfull' (zpow_pos two_pos _).le
    have hlog' := (Int.zpow_le_iff_le_log (by norm_num) hpos).1 hlow
    have := hd.least
    omega
  · omega

theorem Canonical.nearestBits (hd : d.Canonical) : nearestBits d.num d.den = d.bits := by
  by_cases h : d.significand = 0
  · rw [bits_zero hd h, num, h, zero_mul]
    rfl
  · have hnum : d.num ≠ 0 := Nat.mul_ne_zero h (Nat.two_pow_pos _).ne'
    have horder : max (-1074) (binaryOrder d.num d.den - 52) = d.exponent := by
      rw [binaryOrder_eq_log (Nat.pos_of_ne_zero hnum) d.den_pos, num_div_den, hd.log_value h]
    have hround : roundDiv (d.num * twoTo (-d.exponent).toNat) (d.den * twoTo d.exponent.toNat) =
        d.significand := by
      have hone : roundDiv (d.num * twoTo (-d.exponent).toNat) (d.den * twoTo d.exponent.toNat) =
          roundDiv d.significand 1 := by
        refine roundDiv_congr (Nat.mul_pos d.den_pos (Nat.two_pow_pos _)) Nat.one_pos ?_
        rw [num, den]
        ring
      rw [hone]
      simp [roundDiv, Nat.mod_one]
    simp only [Numeral.nearestBits, if_neg hnum, horder, hround]
    exact min_eq_left hd.bits_le

end Dyadic

theorem canonical_of_shape {bits : ℕ} {negative : Bool} {d : Dyadic}
    (h : shapeOfBits bits = .finite negative d) :
    d.Canonical ∧ bits % twoTo 63 = d.bits ∧ negative = (bits / twoTo 63 % 2 == 1) := by
  simp only [shapeOfBits] at h
  split at h
  · split at h <;> cases h
  · split at h
    · next hzero =>
      cases h
      refine ⟨⟨by simp, by simp, ?_, .inr rfl⟩, ?_, rfl⟩
      · simp only [twoTo, Nat.pow_eq]
        omega
      · simp only [Dyadic.bits, twoTo, Nat.pow_eq] at hzero ⊢
        omega
    · next hinfinite hzero =>
      cases h
      simp only [twoTo, Nat.pow_eq] at hinfinite hzero
      refine ⟨⟨?_, ?_, ?_, .inl ?_⟩, ?_, rfl⟩
      · simp only [twoTo, Nat.pow_eq]
        omega
      · simp only [twoTo, Nat.pow_eq]
        omega
      · simp only [twoTo, Nat.pow_eq]
        omega
      · simp only [twoTo, Nat.pow_eq]
        omega
      · simp only [Dyadic.bits, twoTo, Nat.pow_eq]
        omega

end Reckon.Numeral
