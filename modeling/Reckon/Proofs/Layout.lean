import Reckon.Numeral.Layout
import Reckon.Proofs.Decimals
import Reckon.Proofs.Doubles
import Reckon.Proofs.Numeral

/-! Numbers written and read. Positional notation reads back as a decimal of the same value,
wherever the point had to go; and a double that is whole, or not below a ten-thousandth, is written
in it. -/
namespace Reckon.Numeral
open Text

/-! Digits and what they say. -/

theorem exists_of_isLatinDigit {c : Char} (h : isLatinDigit c = true) :
    ∃ d < 10, c = Char.ofNat (48 + d) := by
  obtain ⟨hlow, hhigh⟩ := Bool.and_eq_true_iff.1 h
  have hlow' : 48 ≤ c.toNat := of_decide_eq_true hlow
  have hhigh' : c.toNat ≤ 57 := of_decide_eq_true hhigh
  refine ⟨c.toNat - 48, by omega, ?_⟩
  rw [Nat.add_sub_cancel' hlow', Char.ofNat_toNat]

theorem isDigit_of_isLatinDigit {c : Char} (h : isLatinDigit c = true) : isDigit c = true := by
  have hall : ∀ d < 10, isDigit (Char.ofNat (48 + d)) = true := by decide
  obtain ⟨d, hd, rfl⟩ := exists_of_isLatinDigit h
  exact hall d hd

theorem latinDigit_of_isLatinDigit {c : Char} (h : isLatinDigit c = true) : latinDigit c = c := by
  have hall : ∀ d < 10, latinDigit (Char.ofNat (48 + d)) = Char.ofNat (48 + d) := by decide
  obtain ⟨d, hd, rfl⟩ := exists_of_isLatinDigit h
  exact hall d hd

theorem isLatinDigit_of_mem_digits {n : ℕ} {c : Char} (h : c ∈ digits n) : isLatinDigit c = true :=
  Nat.isDigit_of_mem_toDigits (by norm_num) (by norm_num) h

theorem digits_ne_nil (n : ℕ) : digits n ≠ [] := Nat.toDigits_ne_nil

theorem ofDigits_digits (n : ℕ) : ofDigits (digits n) = n :=
  Nat.ofDigitChars_toDigits (by norm_num) (by norm_num)

theorem ofDigits_append (us vs : List Char) :
    ofDigits (us ++ vs) = ofDigits us * 10 ^ vs.length + ofDigits vs := by
  have happend : ofDigits (us ++ vs) = Nat.ofDigitChars 10 vs (ofDigits us) :=
    Nat.ofDigitChars_append 0
  rw [happend, Nat.ofDigitChars_eq_ofDigitChars_zero, mul_comm]
  rfl

theorem ofDigits_replicate_zero (k : ℕ) : ofDigits (List.replicate k '0') = 0 :=
  Nat.ofDigitChars_replicate_zero.trans (mul_zero _)

theorem ofDigits_append_zeros (ds : List Char) (k : ℕ) :
    ofDigits (ds ++ List.replicate k '0') = ofDigits ds * 10 ^ k := by
  rw [ofDigits_append, ofDigits_replicate_zero, List.length_replicate, add_zero]

theorem ofDigits_zeros_append (k : ℕ) (ds : List Char) :
    ofDigits (List.replicate k '0' ++ ds) = ofDigits ds := by
  rw [ofDigits_append, ofDigits_replicate_zero, zero_mul, zero_add]

theorem trimZeros_append (cs : List Char) : ∃ k, trimZeros cs ++ List.replicate k '0' = cs := by
  induction cs with
  | nil => exact ⟨0, rfl⟩
  | cons c cs ih =>
    obtain ⟨k, hk⟩ := ih
    simp only [trimZeros]
    cases htrim : trimZeros cs with
    | cons d ds =>
      rw [htrim] at hk
      exact ⟨k, congrArg (c :: ·) hk⟩
    | nil =>
      rw [htrim, List.nil_append] at hk
      by_cases hc : c = '0'
      · exact ⟨k + 1, by rw [if_pos hc, ← hk, hc]; rfl⟩
      · exact ⟨k, by rw [if_neg hc, ← hk]; rfl⟩

theorem significant_append (cs : List Char) : ∃ k, significant cs ++ List.replicate k '0' = cs := by
  cases cs with
  | nil => exact ⟨0, rfl⟩
  | cons c cs =>
    obtain ⟨k, hk⟩ := trimZeros_append cs
    exact ⟨k, congrArg (c :: ·) hk⟩

theorem significant_ne_nil {cs : List Char} (h : cs ≠ []) : significant cs ≠ [] := by
  cases cs with
  | nil => exact absurd rfl h
  | cons c cs => exact List.cons_ne_nil _ _

theorem mem_of_mem_significant {c : Char} {cs : List Char} (h : c ∈ significant cs) : c ∈ cs := by
  obtain ⟨k, hk⟩ := significant_append cs
  rw [← hk]
  exact List.mem_append_left _ h

theorem value_mul_pow (n k : ℕ) (e : ℤ) :
    (Decimal.mk (n * 10 ^ k) e).value = (Decimal.mk n (e + k)).value := by
  simp only [Decimal.value]
  rw [zpow_add₀ (by norm_num), zpow_natCast]
  push_cast
  ring

theorem value_significant (c : Decimal) :
    (Decimal.mk (ofDigits (significant (digits c.coefficient)))
      (c.order + 1 - (significant (digits c.coefficient)).length)).value = c.value := by
  obtain ⟨k, hk⟩ := significant_append (digits c.coefficient)
  have hcoefficient : c.coefficient = ofDigits (significant (digits c.coefficient)) * 10 ^ k := by
    rw [← ofDigits_append_zeros, hk, ofDigits_digits]
  have hcount : (significant (digits c.coefficient)).length + k = digitCount c.coefficient := by
    conv_rhs => rw [digitCount, ← hk]
    rw [List.length_append, List.length_replicate]
  have hexponent : c.order + 1 - (significant (digits c.coefficient)).length = c.exponent + k := by
    rw [Decimal.order, ← hcount]
    push_cast
    ring
  rw [hexponent, ← value_mul_pow, ← hcoefficient]

/-! Positional notation. -/

structure Pointed (cs us vs : List Char) : Prop where
  eq : cs = us ++ '.' :: vs
  starts : us ≠ []
  digits : ∀ c ∈ us ++ vs, isLatinDigit c = true

theorem pointed_positional {ds : List Char} (hne : ds ≠ [])
    (hds : ∀ c ∈ ds, isLatinDigit c = true) (place : ℤ) :
    ∃ us vs, Pointed (positional exact ds place) us vs ∧
      (Decimal.mk (ofDigits (us ++ vs)) (-(vs.length : ℤ))).value =
        (Decimal.mk (ofDigits ds) (place - ds.length)).value := by
  have hzeros : ∀ k, ∀ c ∈ List.replicate k '0', isLatinDigit c = true := by
    intro k c hc
    rw [List.eq_of_mem_replicate hc]
    rfl
  unfold positional
  split
  · next hplace =>
    -- The point is in front of all digits, with zeros between.
    generalize hk : (-place).toNat = k
    have hdigits : ∀ c ∈ List.replicate (k + 1) '0' ++ ds, isLatinDigit c = true :=
      List.forall_mem_append.2 ⟨hzeros _, hds⟩
    have hsame := ofDigits_zeros_append (k + 1) ds
    have hexponent : -((List.replicate k '0' ++ ds).length : ℤ) = place - ds.length := by
      rw [List.length_append, List.length_replicate]
      omega
    refine ⟨['0'], List.replicate k '0' ++ ds, ⟨rfl, by simp, hdigits⟩, ?_⟩
    rw [hexponent]
    exact congrArg (fun n => (Decimal.mk n _).value) hsame
  · next hplace =>
    simp only
    split
    · next hlong =>
      -- It is behind all of them, with zeros between, and one more zero behind it.
      generalize hk : place.toNat - ds.length = k
      have hall : ds ++ List.replicate k '0' ++ ['0'] = ds ++ List.replicate (k + 1) '0' := by
        rw [List.append_assoc, ← List.replicate_succ']
      have hdigits : ∀ c ∈ ds ++ List.replicate k '0' ++ ['0'], isLatinDigit c = true := by
        rw [hall]
        exact List.forall_mem_append.2 ⟨hds, hzeros _⟩
      have hexponent : -((['0'].length : ℕ) : ℤ) + (k + 1 : ℕ) = place - ds.length := by
        rw [List.length_singleton]
        omega
      refine ⟨ds ++ List.replicate k '0', ['0'],
        ⟨rfl, List.append_ne_nil_of_left_ne_nil hne _, hdigits⟩, ?_⟩
      rw [hall, ofDigits_append_zeros, value_mul_pow, hexponent]
    · next hshort =>
      -- It is among them.
      generalize hn : place.toNat = n at hshort
      have hdigits : ∀ c ∈ ds.take n ++ ds.drop n, isLatinDigit c = true := by
        rwa [List.take_append_drop]
      have htake : ds.take n ≠ [] := by
        rw [Ne, List.take_eq_nil_iff]
        exact not_or.2 ⟨by omega, hne⟩
      have hexponent : -((ds.drop n).length : ℤ) = place - ds.length := by
        rw [List.length_drop]
        omega
      refine ⟨ds.take n, ds.drop n, ⟨rfl, htake, hdigits⟩, ?_⟩
      rw [List.take_append_drop, hexponent]

/-! Digits read as what they say, with a point among them or without. -/

theorem fraction?_digits {us : List Char} (hne : us ≠ []) (hus : ∀ c ∈ us, isLatinDigit c = true) :
    fraction? us = some (⟨ofDigits us, 0⟩, []) := by
  have htake : us.takeWhile isLatinDigit = us := List.takeWhile_eq_self_iff.2 hus
  have hdrop : us.dropWhile isLatinDigit = [] := List.dropWhile_eq_nil_iff.2 hus
  simp [fraction?, htake, hdrop, hne]

theorem Pointed.fraction? {cs us vs : List Char} (h : Pointed cs us vs) :
    fraction? cs = some (⟨ofDigits (us ++ vs), -(vs.length : ℤ)⟩, []) := by
  obtain ⟨hus, hvs⟩ := List.forall_mem_append.1 h.digits
  have hpoint : isLatinDigit '.' = false := rfl
  have htake : cs.takeWhile isLatinDigit = us := by
    rw [h.eq, List.takeWhile_append_of_pos hus, List.takeWhile_cons_of_neg (by simp [hpoint]),
      List.append_nil]
  have hdrop : cs.dropWhile isLatinDigit = '.' :: vs := by
    rw [h.eq, List.dropWhile_append_of_pos hus, List.dropWhile_cons_of_neg (by simp [hpoint])]
  have htake' : vs.takeWhile isLatinDigit = vs := List.takeWhile_eq_self_iff.2 hvs
  have hdrop' : vs.dropWhile isLatinDigit = [] := List.dropWhile_eq_nil_iff.2 hvs
  simp [Numeral.fraction?, htake, hdrop, htake', hdrop', h.starts]

structure Names (cs : List Char) (x : Float) : Prop where
  starts : ∃ c rest, cs = c :: rest ∧ isDigit c = true
  numeral : ∀ c ∈ cs, isNumeralChar c = true
  reads : readRun? cs = some x

theorem names_of_fraction? {us rest : List Char} {c : Decimal} (hne : us ≠ [])
    (hus : ∀ d ∈ us, isLatinDigit d = true)
    (hrest : ∀ d ∈ rest, isLatinDigit d = true ∨ d = '.')
    (hread : fraction? (us ++ rest) = some (c, [])) : Names (us ++ rest) c.toFloat := by
  have hall : ∀ d ∈ us ++ rest, isLatinDigit d = true ∨ d = '.' :=
    List.forall_mem_append.2 ⟨fun d hd => .inl (hus d hd), hrest⟩
  have hlatin : ∀ d ∈ us ++ rest, latinDigit d = d := by
    intro d hd
    obtain hdigit | rfl := hall d hd
    · exact latinDigit_of_isLatinDigit hdigit
    · rfl
  constructor
  · cases us with
    | nil => exact absurd rfl hne
    | cons d us => exact ⟨d, us ++ rest, rfl, isDigit_of_isLatinDigit (hus d List.mem_cons_self)⟩
  · intro d hd
    obtain hdigit | rfl := hall d hd
    · rw [isNumeralChar, isDigit_of_isLatinDigit hdigit, Bool.true_or]
    · rfl
  · rw [readRun?, List.map_congr_left hlatin, List.map_id', hread]

theorem names_digits (n : ℕ) : Names (digits n) (Decimal.mk n 0).toFloat := by
  have hdigits : ∀ c ∈ digits n, isLatinDigit c = true := fun _ => isLatinDigit_of_mem_digits
  have hread : fraction? (digits n ++ []) = some (⟨n, 0⟩, []) := by
    rw [List.append_nil, fraction?_digits (digits_ne_nil n) hdigits, ofDigits_digits]
  have h := names_of_fraction? (digits_ne_nil n) hdigits (by simp) hread
  rwa [List.append_nil] at h

theorem names_positional {c : Decimal} (hlow : -4 ≤ c.order) (hhigh : c.order < 16) :
    Names (exact.write c) c.toFloat := by
  have hdigits : ∀ d ∈ significant (digits c.coefficient), isLatinDigit d = true := fun _ hd =>
    isLatinDigit_of_mem_digits (mem_of_mem_significant hd)
  obtain ⟨us, vs, hpointed, hvalue⟩ :=
    pointed_positional (significant_ne_nil (digits_ne_nil _)) hdigits (c.order + 1)
  obtain ⟨hus, hvs⟩ := List.forall_mem_append.1 hpointed.digits
  have hrest : ∀ d ∈ '.' :: vs, isLatinDigit d = true ∨ d = '.' :=
    List.forall_mem_cons.2 ⟨.inr rfl, fun d hd => .inl (hvs d hd)⟩
  have hsame : c.toFloat = (Decimal.mk (ofDigits (us ++ vs)) (-(vs.length : ℤ))).toFloat := by
    rw [Decimal.toFloat, Decimal.toFloat,
      Decimal.bits_congr (hvalue.trans (value_significant c))]
  have hread := hpointed.fraction?
  rw [Layout.write, if_pos ⟨hlow, hhigh⟩, hsame]
  rw [hpointed.eq] at hread ⊢
  exact names_of_fraction? hpointed.starts hus hrest hread

/-! Doubles in full. -/

/-- Without a sign, and whole or not below a ten-thousandth. -/
def Plain (x : Float) : Prop :=
  ∃ d, shape x = .finite false d ∧ (d.whole?.isSome = true ∨ 1 / 10000 ≤ d.value)

section
variable {x : Float} {d : Dyadic}

theorem toBits_of_shape (h : shape x = .finite false d) : x.toBits.toNat = d.bits := by
  obtain ⟨-, hbits, hsign⟩ := canonical_of_shape h
  have hlt := x.toBits.toNat_lt
  have hclear : x.toBits.toNat / twoTo 63 % 2 ≠ 1 := by
    intro hone
    rw [hone] at hsign
    cases hsign
  simp only [twoTo, Nat.pow_eq] at hbits hclear
  omega

theorem toFloat_of_shape (h : shape x = .finite false d) {c : Decimal} (hc : c.bits = d.bits) :
    c.toFloat = x := by
  rw [Decimal.toFloat, hc, ← toBits_of_shape h, ofBits_toBits]

/-- What is not whole has binary places, so few of its bits are before the point. -/
theorem value_lt_of_whole? (hd : d.Canonical) (h : d.whole? = none) :
    d.significand ≠ 0 ∧ d.value < 2 ^ 52 := by
  have hrest : d.num % d.den ≠ 0 := by
    intro hzero
    rw [Dyadic.whole?, if_pos hzero] at h
    cases h
  have hne : d.significand ≠ 0 := by
    intro hzero
    rw [Dyadic.num, hzero, zero_mul, Nat.zero_mod] at hrest
    exact hrest rfl
  have hexponent : d.exponent ≤ -1 := by
    by_contra hge
    have hback : (-d.exponent).toNat = 0 := by omega
    rw [Dyadic.den, hback] at hrest
    exact hrest (Nat.mod_one _)
  have hfits : (d.significand : ℚ) < 2 ^ 53 := by exact_mod_cast hd.fits
  have hhalf : (2 : ℚ) ^ d.exponent ≤ 2 ^ (-1 : ℤ) := zpow_le_zpow_right₀ (by norm_num) hexponent
  refine ⟨hne, ?_⟩
  calc d.value < 2 ^ 53 * 2 ^ d.exponent := mul_lt_mul_of_pos_right hfits (zpow_pos two_pos _)
    _ ≤ 2 ^ 53 * 2 ^ (-1 : ℤ) := mul_le_mul_of_nonneg_left hhalf (by positivity)
    _ = 2 ^ 52 := by norm_num

theorem names_plainText (h : Plain x) : Names (plainText x).toList x := by
  obtain ⟨d, hshape, hplain⟩ := h
  obtain ⟨hd, hbits, -⟩ := canonical_of_shape hshape
  cases hwhole : d.whole? with
  | some n =>
    have hvalue : (Decimal.mk n 0).value = d.value := by
      have hden : (d.den : ℚ) ≠ 0 := by exact_mod_cast d.den_pos.ne'
      rw [← d.num_div_den, eq_div_iff hden, Decimal.value, zpow_zero, mul_one]
      exact_mod_cast Dyadic.mul_den_of_whole? hwhole
    have hn := names_digits n
    rw [toFloat_of_shape hshape (Decimal.bits_of_value hd hvalue)] at hn
    simpa [plainText, hshape, hwhole, signed] using hn
  | none =>
    have hleast : 1 / 10000 ≤ d.value := by simpa [hwhole] using hplain
    obtain ⟨hne, hlt⟩ := value_lt_of_whole? hd hwhole
    have hpos := Dyadic.value_pos hne
    obtain ⟨hlow, hhigh⟩ := order_shortest d.bits hne
    have hlow' : -4 ≤ Int.log 10 d.value := by
      refine (Int.zpow_le_iff_le_log (by norm_num) hpos).1 (le_trans ?_ hleast)
      norm_num
    have hhigh' : Int.log 10 (2 * d.value) < 16 := by
      refine (Int.lt_zpow_iff_log_lt (by norm_num) (by linarith)).1 ?_
      norm_num
      linarith
    have hn := names_positional (c := shortest d.bits d) (by omega) (by omega)
    rw [toFloat_of_shape hshape (bits_shortest hd)] at hn
    simpa [plainText, exactText, hshape, hwhole, signed, hbits] using hn

end

end Reckon.Numeral
