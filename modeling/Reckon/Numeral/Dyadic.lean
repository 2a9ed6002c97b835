/-! Doubles taken apart. A finite one is a sign and `significand * 2 ^ exponent`, so all that is
asked of its exact value is a question about whole numbers. -/
namespace Reckon.Numeral

abbrev twoTo (n : Nat) : Nat := Nat.pow 2 n
abbrev tenTo (n : Nat) : Nat := Nat.pow 10 n

structure Dyadic where
  significand : Nat
  exponent : Int
  deriving DecidableEq

inductive Shape where
  | nan
  | infinite (negative : Bool)
  | finite (negative : Bool) (magnitude : Dyadic)
  deriving DecidableEq

/-- Field by field: a sign bit, eleven bits of exponent, fifty-two bits of fraction. -/
def shapeOfBits (bits : Nat) : Shape :=
  let negative := bits / twoTo 63 % 2 == 1
  let scale : Nat := bits / twoTo 52 % twoTo 11
  let fraction : Nat := bits % twoTo 52
  if scale = 2047 then
    if fraction = 0 then .infinite negative else .nan
  else if scale = 0 then .finite negative ⟨fraction, -1074⟩
  else .finite negative ⟨twoTo 52 + fraction, (scale : Int) - 1075⟩

def shape (x : Float) : Shape := shapeOfBits x.toBits.toNat

def Dyadic.num (d : Dyadic) : Nat := d.significand * twoTo d.exponent.toNat
def Dyadic.den (d : Dyadic) : Nat := twoTo (-d.exponent).toNat

theorem Dyadic.den_pos (d : Dyadic) : 0 < d.den := Nat.two_pow_pos _

def Dyadic.whole? (d : Dyadic) : Option Nat :=
  if d.num % d.den = 0 then some (d.num / d.den) else none

theorem Dyadic.mul_den_of_whole? {d : Dyadic} {n : Nat} (h : d.whole? = some n) :
    n * d.den = d.num := by
  unfold whole? at h
  split at h
  · next hd => cases h; exact Nat.div_mul_cancel (Nat.dvd_of_mod_eq_zero hd)
  · cases h

/-- A quotient to the nearest whole number, a half to the even neighbour. -/
def roundDiv (num den : Nat) : Nat :=
  let q := num / den
  let r := num % den
  if 2 * r > den || (2 * r == den && q % 2 == 1) then q + 1 else q

/-- The greatest `k` with `2 ^ k ≤ num / den`, for a positive quotient. -/
def binaryOrder (num den : Nat) : Int :=
  let k : Int := (num.log2 : Int) - den.log2
  if num * twoTo (-k).toNat < den * twoTo k.toNat then k - 1 else k

def infinityBits : Nat := 2047 * twoTo 52

/-- The bits of the double nearest to `num / den`. Exponent field and fraction make one numeral, so
a fraction that rounds up to `2 ^ 52` carries into the exponent by itself; all beyond the last
finite double is infinity. -/
def nearestBits (num den : Nat) : Nat :=
  if num = 0 then 0 else
  let e := max (-1074) (binaryOrder num den - 52)
  let significand := roundDiv (num * twoTo (-e).toNat) (den * twoTo e.toNat)
  min ((e + 1074).toNat * twoTo 52 + significand) infinityBits

def isFinite (x : Float) : Bool :=
  match shape x with
  | .finite _ _ => true
  | _ => false

def isInfinite (x : Float) : Bool :=
  match shape x with
  | .infinite _ => true
  | _ => false

def isNegative (x : Float) : Bool :=
  match shape x with
  | .finite s _ | .infinite s => s
  | .nan => false

def wholeMagnitude? (x : Float) : Option Nat :=
  match shape x with
  | .finite _ d => d.whole?
  | _ => none

def isWhole (x : Float) : Bool := (wholeMagnitude? x).isSome
def isOdd (x : Float) : Bool := (wholeMagnitude? x).any (· % 2 == 1)

def ofBits (bits : Nat) : Float := Float.ofBits (UInt64.ofNat bits)

def infinity : Float := ofBits infinityBits
def nan : Float := 0.0 / 0.0

end Reckon.Numeral
