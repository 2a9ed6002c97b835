import Reckon.Operator.Binary
import Reckon.Proofs.Kinds

/-! Quotients and powers that no finite number is right for. Quotients are those of the standard for
floating point, whatever is divided. So are powers, but for those of negative zero with a negative
odd exponent: there the standard has negative infinity. -/
namespace Reckon
open Numeral
open Float.Model (UnpackedFloat)

theorem isMinus_div (s t : UnpackedFloat.Sign) : isMinus (s / t) = (isMinus s != isMinus t) := by
  cases s <;> cases t <;> rfl

theorem infinityOf_isMinus (s : UnpackedFloat.Sign) :
    infinityOf (isMinus s) = .ofModel (.pack (.infinity s)) := by
  cases s <;> rfl

theorem infinityOf_injective {a b : Bool} (h : infinityOf a = infinityOf b) : a = b := by
  revert a b
  decide +kernel

/-- The division of doubles is that of the standard, so this holds of zero divisors as well. -/
theorem divide_eq (x y : Float) : divide x y = x / y := by
  have hquotient : x / y = .ofModel (.pack (UnpackedFloat.div .binary64 (kind x) (kind y))) := rfl
  have hsign := isNegative_eq x
  unfold divide
  by_cases hy : (y == 0) = true
  · obtain ⟨t, ht⟩ := eq_zero_iff.1 hy
    have hsign' := isNegative_eq y
    rw [ht] at hsign'
    have hinfinite : ∀ s, infinityOf (isMinus s != isMinus t) =
        .ofModel (.pack (.infinity (s / t))) := fun s => by
      rw [← isMinus_div, infinityOf_isMinus]
    rw [if_pos hy, hquotient, ht, hsign']
    cases hx : kind x with
    | notANumber =>
      have hnone : (x == 0 || x.isNaN) = true := by rw [isNaN_iff.2 hx, Bool.or_true]
      rw [if_pos hnone]
      rfl
    | zero s =>
      have hnone : (x == 0 || x.isNaN) = true := by rw [eq_zero_iff.2 ⟨s, hx⟩, Bool.true_or]
      rw [if_pos hnone]
      rfl
    | infinity s | finite s m e hm =>
      rw [hx] at hsign
      have hsome : ¬ (x == 0 || x.isNaN) = true := by
        rw [Bool.or_eq_true, eq_zero_iff, isNaN_iff, hx]
        rintro (⟨_, ⟨⟩⟩ | ⟨⟨⟩⟩)
      rw [if_neg hsome, hsign]
      exact hinfinite s
  · rw [if_neg hy]

/-! Powers, by way of any function that has the finite ones. -/

def powerBy (pow : Float → Float → Float) (x y : Float) : Float :=
  match exceptionalPower? x y with
  | some z => z
  | none =>
    let z := pow x y
    if isFinite x && isFinite y && isInfinite z then infinityOf (x < 0 && isOdd y) else z

theorem power_eq_powerBy (x y : Float) : power x y = powerBy Float.pow x y := rfl

def IsPole (x y : Float) : Prop := x == 0 ∧ y < 0

def IsRoot (x y : Float) : Prop := isFinite x ∧ x < 0 ∧ isFinite y ∧ isWhole y = false

/-- What the standard says of the powers that are no finite numbers, and of odd powers of zeros. -/
structure PowerRules (pow : Float → Float → Float) : Prop where
  pole : ∀ x y, IsPole x y → pow x y = infinityOf (isNegative x && isOdd y)
  root : ∀ x y, IsRoot x y → pow x y = nan
  overflow : ∀ x y, isFinite x → isFinite y → ¬ IsPole x y → isInfinite (pow x y) →
    pow x y = infinityOf (x < 0 && isOdd y)
  zero : ∀ x y, x == 0 → 0 < y → isOdd y → pow x y = x

section
variable {x y : Float}

theorem isFinite_of_eq_zero (h : x == 0) : isFinite x = true := by
  obtain ⟨s, hs⟩ := eq_zero_iff.1 h
  rw [isFinite_iff, hs]
  rfl

theorem not_lt_zero_of_eq_zero (h : x == 0) : ¬ x < 0 := by
  obtain ⟨s, hs⟩ := eq_zero_iff.1 h
  rw [lt_iff_compare, hs, kind_zero]
  rintro ⟨⟩

theorem isWhole_of_isOdd (h : isOdd y) : isWhole y = true := by
  unfold isOdd at h
  unfold isWhole
  cases hn : wholeMagnitude? y with
  | none =>
    rw [hn] at h
    cases h
  | some n => rfl

theorem isFinite_of_isOdd (h : isOdd y) : isFinite y = true := by
  have hwhole := isWhole_of_isOdd h
  unfold isWhole wholeMagnitude? at hwhole
  unfold isFinite
  cases hy : shape y with
  | finite negative d => rfl
  | nan | infinite =>
    rw [hy] at hwhole
    cases hwhole

theorem exceptionalPower?_pole (h : IsPole x y) (hy : isFinite y) :
    exceptionalPower? x y = some infinity := by
  simp [exceptionalPower?, isFinite_of_eq_zero h.1, hy, h.1, h.2]

theorem exceptionalPower?_root (h : IsRoot x y) : exceptionalPower? x y = some nan := by
  obtain ⟨hx, hneg, hy, hwhole⟩ := h
  have hzero : (x == 0) = false :=
    Bool.eq_false_iff.2 fun hzero => not_lt_zero_of_eq_zero hzero hneg
  simp [exceptionalPower?, hx, hy, hneg, hwhole, hzero]

theorem exceptionalPower?_eq_none (hpole : IsPole x y → isFinite y = false) (hroot : ¬ IsRoot x y) :
    exceptionalPower? x y = none := by
  unfold exceptionalPower?
  split
  · next hfinite =>
    obtain ⟨hx, hy⟩ := Bool.and_eq_true_iff.1 hfinite
    split
    · next h =>
      obtain ⟨hzero, hneg⟩ := Bool.and_eq_true_iff.1 h
      cases hy.symm.trans (hpole ⟨hzero, of_decide_eq_true hneg⟩)
    · split
      · next h =>
        obtain ⟨hneg, hwhole⟩ := Bool.and_eq_true_iff.1 h
        exact absurd ⟨hx, of_decide_eq_true hneg, hy, by simpa using hwhole⟩ hroot
      · rfl
  · rfl

variable {pow : Float → Float → Float}

theorem powerBy_of_pole (rules : PowerRules pow) (h : IsPole x y) : powerBy pow x y = infinity := by
  by_cases hy : isFinite y = true
  · rw [powerBy, exceptionalPower?_pole h hy]
  · have hodd : isOdd y = false := Bool.eq_false_iff.2 fun hodd => hy (isFinite_of_isOdd hodd)
    have hnone : exceptionalPower? x y = none :=
      exceptionalPower?_eq_none (fun _ => Bool.eq_false_iff.2 hy) fun hroot => hy hroot.2.2.1
    simp only [powerBy, hnone, rules.pole x y h, hodd, Bool.and_false, Bool.eq_false_iff.2 hy]
    rfl

theorem powerBy_of_root (h : IsRoot x y) : powerBy pow x y = nan := by
  rw [powerBy, exceptionalPower?_root h]

theorem powerBy_of_overflow (hx : isFinite x) (hy : isFinite y) (hpole : ¬ IsPole x y)
    (hroot : ¬ IsRoot x y) (hz : isInfinite (pow x y)) :
    powerBy pow x y = infinityOf (x < 0 && isOdd y) := by
  have hnone : exceptionalPower? x y = none :=
    exceptionalPower?_eq_none (fun h => absurd h hpole) hroot
  simp only [powerBy, hnone, hx, hy, hz, Bool.and_self, if_true]

theorem powerBy_of_regular (hpole : ¬ IsPole x y) (hroot : ¬ IsRoot x y)
    (h : ¬ (isFinite x ∧ isFinite y ∧ isInfinite (pow x y))) : powerBy pow x y = pow x y := by
  have hnone : exceptionalPower? x y = none :=
    exceptionalPower?_eq_none (fun h => absurd h hpole) hroot
  simp only [powerBy, hnone]
  rw [if_neg]
  simpa [and_assoc] using h

theorem powerBy_eq_iff (rules : PowerRules pow) :
    powerBy pow x y = pow x y ↔ ¬ (IsPole x y ∧ isNegative x ∧ isOdd y) := by
  by_cases hpole : IsPole x y
  · have hpositive : infinity = infinityOf false := rfl
    rw [powerBy_of_pole rules hpole, rules.pole x y hpole, hpositive]
    constructor
    · rintro hsame ⟨-, hx, hy⟩
      have hsigns := infinityOf_injective hsame
      rw [hx, hy] at hsigns
      cases hsigns
    · intro hsigns
      refine congrArg infinityOf (Bool.eq_false_iff.2 fun hminus => hsigns ⟨hpole, ?_⟩).symm
      exact Bool.and_eq_true_iff.1 hminus
  · refine iff_of_true ?_ fun h => hpole h.1
    by_cases hroot : IsRoot x y
    · rw [powerBy_of_root hroot, rules.root x y hroot]
    · by_cases h : isFinite x ∧ isFinite y ∧ isInfinite (pow x y)
      · obtain ⟨hx, hy, hz⟩ := h
        rw [powerBy_of_overflow hx hy hpole hroot hz, rules.overflow x y hx hy hpole hz]
      · exact powerBy_of_regular hpole hroot h

theorem divide_one_of_eq_zero (h : x == 0) : divide 1 x = infinityOf (isNegative x) := by
  have hone : ((1 : Float) == 0 || (1 : Float).isNaN) = false := by decide +kernel
  have hsign : isNegative 1 = false := by decide +kernel
  rw [divide, if_pos h, if_neg (Bool.eq_false_iff.1 hone), hsign, Bool.false_bne]

theorem powerBy_odd_of_eq_zero (rules : PowerRules pow) (hx : x == 0) (hy : 0 < y)
    (hodd : isOdd y) : powerBy pow x y = x := by
  have hpole : ¬ IsPole x y := fun h => not_lt_zero_of_zero_lt hy h.2
  have hroot : ¬ IsRoot x y := fun h => not_lt_zero_of_eq_zero hx h.2.1
  have hzero := rules.zero x y hx hy hodd
  have hfinite : isInfinite x = false := by
    obtain ⟨s, hs⟩ := eq_zero_iff.1 hx
    rw [Bool.eq_false_iff, ne_eq, isInfinite_iff, hs]
    rintro ⟨_, ⟨⟩⟩
  rw [powerBy_of_regular hpole hroot, hzero]
  rintro ⟨-, -, hz⟩
  rw [hzero, hfinite] at hz
  cases hz

theorem powerBy_eq_reciprocal_iff (rules : PowerRules pow) (h : IsPole x y) (hodd : isOdd y) :
    powerBy pow x y = divide 1 (powerBy pow x (-y)) ↔ isNegative x = false := by
  have hpositive : infinity = infinityOf false := rfl
  rw [powerBy_odd_of_eq_zero rules h.1 (zero_lt_neg_iff.2 h.2) ((isOdd_neg y).trans hodd),
    powerBy_of_pole rules h, divide_one_of_eq_zero h.1, hpositive]
  exact ⟨fun hsame => (infinityOf_injective hsame).symm, fun hx => by rw [hx]⟩

end

/-- What there is for quotients and powers that are no finite numbers. By the standard, and this is
what the rules are, all of it is right but the negative odd powers of negative zero. -/
theorem divide_and_power_at_exceptions {pow : Float → Float → Float} (rules : PowerRules pow) :
    (∀ x y, divide x y = x / y ∧ (y == 0 → divide x y =
      if x == 0 || x.isNaN then nan else infinityOf (isNegative x != isNegative y))) ∧
    (∀ x y, power x y = powerBy Float.pow x y) ∧
    (∀ x y, isFinite x → isFinite y → ¬ IsPole x y → isInfinite (pow x y) →
      powerBy pow x y = infinityOf (x < 0 && isOdd y)) ∧
    (∀ x y, IsPole x y → powerBy pow x y = infinity) ∧
    (∀ x y, IsRoot x y → powerBy pow x y = nan) ∧
    (∀ x y, powerBy pow x y = pow x y ↔ ¬ (IsPole x y ∧ isNegative x ∧ isOdd y)) ∧
    ∀ x y, IsPole x y → isOdd y →
      (powerBy pow x y = divide 1 (powerBy pow x (-y)) ↔ isNegative x = false) := by
  refine ⟨fun x y => ⟨divide_eq x y, fun hy => if_pos hy⟩, power_eq_powerBy,
    fun x y hx hy hpole hz => ?_, fun x y => powerBy_of_pole rules, fun x y => powerBy_of_root,
    fun x y => powerBy_eq_iff rules, fun x y => powerBy_eq_reciprocal_iff rules⟩
  have hoverflow := rules.overflow x y hx hy hpole hz
  rw [← hoverflow]
  exact (powerBy_eq_iff rules).2 fun h => hpole h.1

def firstPower (x y : Float) : Float :=
  if x == 0 && y < 0 then infinityOf (isNegative x && isOdd y)
  else if isFinite x && x < 0 && isFinite y && !isWhole y then nan
  else if y == 1 || x == 0 && isOdd y then x
  else 1

theorem powerRules_firstPower : PowerRules firstPower where
  pole x y h := by
    have hbranch : (x == 0 && decide (y < 0)) = true :=
      Bool.and_eq_true_iff.2 ⟨h.1, decide_eq_true h.2⟩
    rw [firstPower, if_pos hbranch]
  root x y h := by
    obtain ⟨hx, hneg, hy, hwhole⟩ := h
    have hzero : ¬ x == 0 := fun hzero => not_lt_zero_of_eq_zero hzero hneg
    simp [firstPower, hzero, hx, hneg, hy, hwhole]
  overflow x y hx _ hpole hz := by
    have hnan : isInfinite nan = false := by decide +kernel
    have hone : isInfinite 1 = false := by decide +kernel
    have hfinite : isInfinite x = false := by
      rw [isFinite_iff] at hx
      rw [Bool.eq_false_iff, ne_eq, isInfinite_iff]
      rintro ⟨s, hs⟩
      rw [hs] at hx
      cases hx
    unfold firstPower at hz
    split at hz
    · next h =>
      obtain ⟨hzero, hneg⟩ := Bool.and_eq_true_iff.1 h
      exact absurd ⟨hzero, of_decide_eq_true hneg⟩ hpole
    · split at hz
      · cases hnan.symm.trans hz
      · split at hz
        · cases hfinite.symm.trans hz
        · cases hone.symm.trans hz
  zero x y hx hy hodd := by
    simp [firstPower, hx, hodd, not_lt_zero_of_eq_zero hx, not_lt_zero_of_zero_lt hy]

/-- One divided by the first power of negative zero is negative infinity, and so is its power of
minus one by the standard; but it is taken for infinity. -/
theorem powerBy_negative_zero :
    PowerRules firstPower ∧ IsPole (-0.0) (-1) ∧ isNegative (-0.0) ∧ isOdd (-1) ∧
      divide 1 (-0.0) = -infinity ∧ firstPower (-0.0) (-1) = -infinity ∧
      powerBy firstPower (-0.0) (-1) = infinity ∧
      powerBy firstPower (-0.0) (-1) ≠ firstPower (-0.0) (-1) ∧
      powerBy firstPower (-0.0) (-1) ≠ divide 1 (powerBy firstPower (-0.0) (- -1)) := by
  obtain ⟨-, -, -, hpole, -, hsame, hreciprocal⟩ :=
    divide_and_power_at_exceptions powerRules_firstPower
  have h : IsPole (-0.0) (-1) := ⟨by decide +kernel, by decide +kernel⟩
  have hnegative : isNegative (-0.0) = true := by decide +kernel
  have hodd : isOdd (-1) = true := by decide +kernel
  refine ⟨powerRules_firstPower, h, hnegative, hodd, by decide +kernel, by decide +kernel,
    hpole _ _ h, fun heq => (hsame _ _).1 heq ⟨h, hnegative, hodd⟩, fun heq => ?_⟩
  cases hnegative.symm.trans ((hreciprocal _ _ h hodd).1 heq)

theorem power_negative_zero :
    ¬ ∀ x y, IsPole x y → power x y = infinityOf (isNegative x && isOdd y) := by
  intro h
  have hpower : power (-0.0) (-1) = infinityOf false := by decide +kernel
  have hsign : (isNegative (-0.0) && isOdd (-1)) = true := by decide +kernel
  have hsame := h (-0.0) (-1) ⟨by decide +kernel, by decide +kernel⟩
  rw [hpower, hsign] at hsame
  cases infinityOf_injective hsame

end Reckon
