import Reckon.Proofs.Doubles

/-! What sort of thing a double is: no number, an infinity, a zero, or anything else that is finite,
and which sign it has. What the bits say of this and what arithmetic goes by are the same. -/
namespace Reckon.Numeral
open Float.Model Float.Model.UnpackedFloat

/-- The double as arithmetic sees it. -/
def kind (x : Float) : UnpackedFloat := x.toModel.unpack

def isMinus : Sign → Bool
  | .negative => true
  | .positive => false

def Shape.ofKind : UnpackedFloat → Shape
  | .notANumber => .nan
  | .infinity s => .infinite (isMinus s)
  | .zero s => .finite (isMinus s) ⟨0, -1074⟩
  | .finite s m e _ => .finite (isMinus s) ⟨m, e⟩

section
variable (b : BitVec Format.binary64.numBits)

theorem toNat_unpackMantissa : (unpackMantissa b).toNat = b.toNat % twoTo 52 := by
  simp only [unpackMantissa, BitVec.toNat_cast, BitVec.extractLsb, BitVec.extractLsb'_toNat]
  rfl

theorem toNat_unpackExponent : (unpackExponent b).toNat = b.toNat / twoTo 52 % twoTo 11 := by
  simp only [unpackExponent, BitVec.toNat_cast, BitVec.extractLsb, BitVec.extractLsb'_toNat,
    Nat.shiftRight_eq_div_pow]

theorem toNat_unpackSign : (unpackSign b).toNat = b.toNat / twoTo 63 % 2 := by
  simp only [unpackSign, BitVec.toNat_cast, BitVec.extractLsb, BitVec.extractLsb'_toNat,
    Nat.shiftRight_eq_div_pow]

theorem isMinus_ofBitVec (v : BitVec 1) : isMinus (Sign.ofBitVec v) = (v.toNat == 1) := by
  revert v
  decide

theorem shapeOfBits_toNat : shapeOfBits b.toNat = .ofKind (unpack .binary64 b) := by
  have hones : unpackExponent b = -1#11 ↔ b.toNat / twoTo 52 % twoTo 11 = 2047 := by
    rw [← toNat_unpackExponent, ← BitVec.toNat_inj]
    rfl
  have hlow : unpackExponent b = 0#11 ↔ b.toNat / twoTo 52 % twoTo 11 = 0 := by
    rw [← toNat_unpackExponent, ← BitVec.toNat_inj]
    rfl
  have hnone : unpackMantissa b = 0#52 ↔ b.toNat % twoTo 52 = 0 := by
    rw [← toNat_unpackMantissa, ← BitVec.toNat_inj]
    rfl
  have hsign := isMinus_ofBitVec (unpackSign b)
  rw [toNat_unpackSign] at hsign
  simp only [shapeOfBits, UnpackedFloat.unpack]
  by_cases h : unpackExponent b = -1#11
  · rw [if_pos (hones.1 h), if_pos h]
    by_cases hm : unpackMantissa b = 0#52
    · rw [if_pos (hnone.1 hm), if_pos hm, Shape.ofKind, hsign]
    · rw [if_neg (mt hnone.2 hm), if_neg hm, Shape.ofKind]
  · rw [if_neg (mt hones.2 h), if_neg h]
    by_cases hzero : unpackExponent b = 0#11
    · rw [if_pos (hlow.1 hzero), if_pos hzero]
      by_cases hm : unpackMantissa b = 0#52
      · rw [dif_pos hm, Shape.ofKind, hsign, hnone.1 hm]
      · rw [dif_neg hm, Shape.ofKind, hsign, toNat_unpackMantissa, toNat_unpackExponent,
          hlow.1 hzero]
        rfl
    · rw [if_neg (mt hlow.2 hzero), if_neg hzero, Shape.ofKind, hsign, toNat_implicit,
        toNat_unpackMantissa, toNat_unpackExponent]
      rfl

end

variable {x : Float}

theorem kind_zero : kind 0 = .zero .positive := rfl

theorem shape_eq_ofKind (x : Float) : shape x = .ofKind (kind x) := shapeOfBits_toNat _

theorem isFinite_iff : isFinite x = true ↔ (kind x).isFinite = true := by
  rw [isFinite, shape_eq_ofKind]
  cases kind x <;> simp [Shape.ofKind, UnpackedFloat.isFinite]

theorem isInfinite_iff : isInfinite x = true ↔ ∃ s, kind x = .infinity s := by
  rw [isInfinite, shape_eq_ofKind]
  cases kind x <;> simp [Shape.ofKind]

theorem isNaN_iff : x.isNaN = true ↔ kind x = .notANumber := by
  change (kind x).isNaN = true ↔ _
  cases kind x <;> simp [UnpackedFloat.isNaN]

theorem eq_zero_iff : (x == 0) = true ↔ ∃ s, kind x = .zero s := by
  change ((kind x).compare (.zero .positive) == some .eq) = true ↔ _
  rcases kind x with (_ | _) | _ | s | ⟨_ | _, m, e, hm⟩ <;> simp [UnpackedFloat.compare]

theorem lt_iff_compare {x y : Float} : x < y ↔ (kind x).compare (kind y) = some .lt := by
  change decide ((kind x).compare (kind y) == some .lt) = true ↔ _
  rw [decide_eq_true_eq, beq_iff_eq]

theorem not_lt_zero_of_zero_lt : 0 < x → ¬ x < 0 := by
  rw [lt_iff_compare, lt_iff_compare, kind_zero]
  rcases kind x with (_ | _) | _ | s | ⟨_ | _, m, e, hm⟩ <;> simp [UnpackedFloat.compare]

theorem isNegative_eq (x : Float) : isNegative x =
    match kind x with
    | .notANumber => false
    | .infinity s | .zero s | .finite s _ _ _ => isMinus s := by
  rw [isNegative, shape_eq_ofKind]
  cases kind x <;> rfl

/-! Negation turns the sign bit over. -/

theorem unpackSign_packComponents (s : Sign) (e : BitVec 11) (m : BitVec 52) :
    Sign.ofBitVec (unpackSign (packComponents .binary64 s e m)) = s := by
  have hbit : unpackSign (packComponents .binary64 s e m) = s.toBitVec := by
    simp only [packComponents, unpackSign, BitVec.extractLsb]
    ext i hi
    grind
  rw [hbit]
  cases s <;> rfl

section
variable {b : BitVec Format.binary64.numBits}

theorem unpack_turned (b : BitVec Format.binary64.numBits) :
    unpack .binary64 (packComponents .binary64 (-Sign.ofBitVec (unpackSign b)) (unpackExponent b)
      (unpackMantissa b)) = (unpack .binary64 b).neg := by
  simp only [UnpackedFloat.unpack, unpackMantissa_packComponents, unpackExponent_packComponents,
    unpackSign_packComponents]
  split
  · split <;> rfl
  · split
    · split <;> rfl
    · rfl

theorem pack_neg_unpack (h : unpack .binary64 b ≠ .notANumber) :
    UnpackedFloat.pack .binary64 (unpack .binary64 b).neg =
      packComponents .binary64 (-Sign.ofBitVec (unpackSign b)) (unpackExponent b)
        (unpackMantissa b) := by
  simp only [UnpackedFloat.unpack] at h ⊢
  by_cases hones : unpackExponent b = -1#11
  · rw [if_pos hones] at h ⊢
    by_cases hnone : unpackMantissa b = 0#52
    · rw [if_pos hnone, hones, hnone]
      rfl
    · exact absurd (if_neg hnone) h
  · rw [if_neg hones]
    by_cases hzero : unpackExponent b = 0#11
    · rw [if_pos hzero]
      by_cases hnone : unpackMantissa b = 0#52
      · rw [dif_pos hnone, hzero, hnone]
        rfl
      · rw [dif_neg hnone, hzero]
        exact pack_subnormal _
    · rw [if_neg hzero]
      exact pack_normal hzero hones _

end

theorem kind_neg (x : Float) : kind (-x) = (kind x).neg := by
  have hunpack : kind (-x) =
      unpack .binary64 (UnpackedFloat.pack .binary64 (kind x).neg) := rfl
  rw [hunpack]
  by_cases h : kind x = .notANumber
  · rw [h]
    rfl
  · exact (congrArg _ (pack_neg_unpack h)).trans (unpack_turned _)

theorem isOdd_neg (x : Float) : isOdd (-x) = isOdd x := by
  rw [isOdd, isOdd, wholeMagnitude?, wholeMagnitude?, shape_eq_ofKind, shape_eq_ofKind, kind_neg]
  cases kind x <;> rfl

theorem zero_lt_neg_iff : 0 < -x ↔ x < 0 := by
  rw [lt_iff_compare, lt_iff_compare, kind_neg, kind_zero]
  rcases kind x with (_ | _) | _ | s | ⟨_ | _, m, e, hm⟩ <;> exact Iff.rfl

/-! Doubles from their kind, and from their shape. -/

theorem kind_injective : Function.Injective kind := by
  have hback : ∀ x : Float, Float.ofModel (.pack (kind x)) = x := by
    rintro ⟨bits, hvalid⟩
    have hpack : Float.Model.pack (unpack .binary64 bits.toBitVec) = ⟨bits, hvalid⟩ := by
      simp only [Float.Model.pack, pack_unpack hvalid]
    exact congrArg Float.ofModel hpack
  intro x y h
  rw [← hback x, h, hback y]

theorem neg_neg_double (x : Float) : - -x = x := by
  refine kind_injective ?_
  rw [kind_neg, kind_neg]
  rcases kind x with (_ | _) | _ | (_ | _) | ⟨_ | _, m, e, hm⟩ <;> rfl

theorem kind_nan : kind nan = .notANumber := rfl

theorem eq_of_shape_nan (h : shape x = .nan) : x = nan := by
  refine kind_injective ?_
  rw [shape_eq_ofKind] at h
  rw [kind_nan]
  generalize kind x = k at h ⊢
  cases k <;> cases h
  rfl

theorem eq_of_shape_infinite {s : Bool} (h : shape x = .infinite s) :
    x = if s then -infinity else infinity := by
  refine kind_injective ?_
  rw [shape_eq_ofKind] at h
  generalize kind x = k at h ⊢
  cases k with
  | infinity sign => cases sign <;> cases h <;> rfl
  | notANumber => cases h
  | zero _ => cases h
  | finite _ _ _ _ => cases h

theorem shape_neg {d : Dyadic} (h : shape x = .finite true d) : shape (-x) = .finite false d := by
  rw [shape_eq_ofKind] at h ⊢
  rw [kind_neg]
  generalize kind x = k at h ⊢
  cases k with
  | zero sign => cases sign <;> cases h; rfl
  | finite sign m e hm => cases sign <;> cases h; rfl
  | notANumber => cases h
  | infinity _ => cases h

end Reckon.Numeral
