import Mathlib
import Reckon.Numeral.Dyadic

/-! Doubles and their bits. A double is its bits, and its shape says all there is to know of these:
the sign bit, and the numeral that exponent field and fraction make together. -/
namespace Reckon.Numeral
open Float.Model Float.Model.UnpackedFloat

section
variable {s : Sign} {e : BitVec 11} {m : BitVec 52}

theorem packComponents_unpack (b : BitVec Format.binary64.numBits) :
    packComponents .binary64 (Sign.ofBitVec (unpackSign b)) (unpackExponent b)
      (unpackMantissa b) = b := by
  have hsign : ∀ v : BitVec 1, (Sign.ofBitVec v).toBitVec = v := by decide
  simp only [packComponents, hsign, unpackSign, unpackExponent, unpackMantissa,
    BitVec.extractLsb]
  ext i hi
  grind

theorem pack_subnormal (hm : 0 < m.toNat) :
    pack .binary64 (.finite s m.toNat (-1074) hm) = packComponents .binary64 s 0#11 m := by
  have hlog : m.toNat.log2 < 52 := (Nat.log2_lt (by omega)).2 m.isLt
  have hbiased : (-1074 + (Format.binary64.exponentBias : Int) +
      (Format.binary64.mantissaBitsWithoutImplicit : Int)).toNat = 1 := by decide
  have hbits : ¬ m.toNat.log2 + 1 = Format.binary64.mantissaBits := by
    have : Format.binary64.mantissaBits = 53 := rfl
    omega
  simp only [UnpackedFloat.pack, hbiased, if_neg hbits, BitVec.ofNat_toNat, BitVec.setWidth_eq]
  rfl

theorem toNat_implicit (m : BitVec 52) : (1#1 ++ m).toNat = 2 ^ 52 + m.toNat := by
  rw [BitVec.toNat_append, ← Nat.shiftLeft_add_eq_or_of_lt m.isLt]
  rfl

theorem pack_normal (hzero : e ≠ 0#11) (hones : e ≠ -1#11) (hm : 0 < (1#1 ++ m).toNat) :
    pack .binary64 (.finite s (1#1 ++ m).toNat (e.toNat - (1023 + 52)) hm) =
      packComponents .binary64 s e m := by
  have hlow : e.toNat ≠ 0 := fun h => hzero (BitVec.toNat_inj.1 h)
  have hhigh : e.toNat ≠ 2047 := fun h => hones (BitVec.toNat_inj.1 h)
  have he : e.toNat < 2 ^ 11 := e.isLt
  have hm' : m.toNat < 2 ^ 52 := m.isLt
  have hlog : (1#1 ++ m).toNat.log2 + 1 = Format.binary64.mantissaBits := by
    have hleast : 52 ≤ (1#1 ++ m).toNat.log2 :=
      (Nat.le_log2 (by omega)).2 (by rw [toNat_implicit]; omega)
    have hmost : (1#1 ++ m).toNat.log2 < 53 :=
      (Nat.log2_lt (by omega)).2 (by rw [toNat_implicit]; omega)
    have : Format.binary64.mantissaBits = 53 := rfl
    omega
  have hbiased : ((e.toNat : Int) - (1023 + 52) + (Format.binary64.exponentBias : Int) +
      (Format.binary64.mantissaBitsWithoutImplicit : Int)).toNat = e.toNat := by
    have hbias : (Format.binary64.exponentBias : Int) = 1023 := rfl
    have hwidth : (Format.binary64.mantissaBitsWithoutImplicit : Int) = 52 := rfl
    omega
  have hrange : ¬ 2 ^ Format.binary64.exponentBits ≤ e.toNat + 1 := by
    have : 2 ^ Format.binary64.exponentBits = 2 ^ 11 := rfl
    omega
  have hfraction : BitVec.ofNat 52 (1#1 ++ m).toNat = m := by
    rw [toNat_implicit, ← BitVec.toNat_inj, BitVec.toNat_ofNat]
    omega
  simp only [UnpackedFloat.pack, hbiased, if_neg hrange, if_pos hlog]
  rw [BitVec.ofNat_toNat, BitVec.setWidth_eq]
  exact congrArg _ hfraction

end

theorem pack_unpack {b : BitVec Format.binary64.numBits} (h : Format.binary64.Valid b) :
    UnpackedFloat.pack .binary64 (unpack .binary64 b) = b := by
  have hwhole := packComponents_unpack b
  simp only [UnpackedFloat.unpack]
  by_cases hones : unpackExponent b = -1#11
  · rw [if_pos hones]
    by_cases hnone : unpackMantissa b = 0#52
    · rw [if_pos hnone]
      rw [hones, hnone] at hwhole
      exact hwhole
    · rw [if_neg hnone]
      exact (h.eq_packedNaN hones hnone).symm
  · rw [if_neg hones]
    by_cases hzero : unpackExponent b = 0#11
    · rw [if_pos hzero]
      by_cases hnone : unpackMantissa b = 0#52
      · rw [dif_pos hnone]
        rw [hzero, hnone] at hwhole
        exact hwhole
      · rw [dif_neg hnone]
        rw [hzero] at hwhole ⊢
        exact (pack_subnormal _).trans hwhole
    · rw [if_neg hzero]
      exact (pack_normal hzero hones _).trans hwhole

theorem ofBits_toBits (x : Float) : ofBits x.toBits.toNat = x := by
  obtain ⟨bits, hvalid⟩ := x
  have hsame : Float.Model.ofBits bits = ⟨bits, hvalid⟩ := by
    simp only [Float.Model.ofBits, Float.Model.pack, pack_unpack hvalid]
  have hbits : UInt64.ofNat bits.toNat = bits := UInt64.ofNat_toNat
  exact congrArg Float.ofModel ((congrArg Float.Model.ofBits hbits).trans hsame)

end Reckon.Numeral
