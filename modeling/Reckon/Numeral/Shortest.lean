import Reckon.Numeral.Decimal

/-! The fewest decimal digits that still name one double. Ever finer decimal grids are tried until a
grid point next to the value names the double. -/
namespace Reckon.Numeral

/-- The grid points on either side of `num / den`, the nearer one first; of two equally near ones
the even one. -/
def neighbours (num den : Nat) : List Nat :=
  let n := roundDiv num den
  [n, if n = num / den then n + 1 else n - 1]

def onGrid? (bits : Nat) (d : Dyadic) (exponent : Int) : Option Decimal :=
  let (n, m) := inUnits d.num d.den exponent
  ((neighbours n m).map (⟨·, exponent⟩)).find? (·.bits == bits)

/-- Each of `count` grids is ten times finer than the one before. All digits of the value are there
for the case that none of them will do. -/
def firstGrid (bits : Nat) (d : Dyadic) (exponent : Int) : Nat → Decimal
  | 0 => d.toDecimal
  | count + 1 => (onGrid? bits d exponent).getD (firstGrid bits d (exponent - 1) count)

def shortest (bits : Nat) (d : Dyadic) : Decimal :=
  if d.significand = 0 then ⟨0, 0⟩ else firstGrid bits d (decimalOrder d.num d.den) 17

theorem bits_of_onGrid? {bits : Nat} {d : Dyadic} {exponent : Int} {c : Decimal}
    (h : onGrid? bits d exponent = some c) : c.bits = bits := by
  simpa using List.find?_some h

theorem bits_firstGrid {bits : Nat} {d : Dyadic} (h : d.toDecimal.bits = bits) (count : Nat)
    (exponent : Int) : (firstGrid bits d exponent count).bits = bits := by
  induction count generalizing exponent with
  | zero => exact h
  | succ count ih =>
    unfold firstGrid
    cases hc : onGrid? bits d exponent with
    | none => exact ih _
    | some c => exact bits_of_onGrid? hc

end Reckon.Numeral
