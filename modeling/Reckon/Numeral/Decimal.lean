import Reckon.Numeral.Dyadic

/-! Decimals `coefficient * 10 ^ exponent`, and the double each of them names. -/
namespace Reckon.Numeral

structure Decimal where
  coefficient : Nat
  exponent : Int
  deriving DecidableEq

def digits (n : Nat) : List Char := Nat.toDigits 10 n
def digitCount (n : Nat) : Nat := (digits n).length

def Decimal.order (d : Decimal) : Int := d.exponent + digitCount d.coefficient - 1

/-- Every double from `1e310` up is infinite and every one below `1e-330` is zero, so powers of ten
are built for the orders between only. -/
def Decimal.bits (d : Decimal) : Nat :=
  if d.coefficient = 0 then 0
  else if 310 < d.order then infinityBits
  else if d.order < -330 then 0
  else nearestBits (d.coefficient * tenTo d.exponent.toNat) (tenTo (-d.exponent).toNat)

def Decimal.toFloat (d : Decimal) : Float := ofBits d.bits

def decimalOrder (num den : Nat) : Int :=
  if den ≤ num then (digitCount (num / den) : Int) - 1
  else -(digitCount ((den - 1) / num) : Int)

def inUnits (num den : Nat) (exponent : Int) : Nat × Nat :=
  (num * tenTo (-exponent).toNat, den * tenTo exponent.toNat)

/-- The quotient to `count` significant digits, a half to the even neighbour. -/
def roundTo (count : Nat) (num den : Nat) : Decimal :=
  if num = 0 then ⟨0, 0⟩ else
  let exponent := decimalOrder num den - (count - 1 : Nat)
  let (n, d) := inUnits num den exponent
  ⟨roundDiv n d, exponent⟩

def Dyadic.toDecimal (d : Dyadic) : Decimal :=
  let k := (-d.exponent).toNat
  ⟨d.num * Nat.pow 5 k, -(k : Int)⟩

end Reckon.Numeral
