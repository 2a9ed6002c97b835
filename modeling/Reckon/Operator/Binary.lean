import Reckon.Numeral.Dyadic

/-! Binary operators. Arithmetic is that of doubles, and total: a zero divisor, a pole and an
overflow give an infinity, what has no real value gives not-a-number. -/
namespace Reckon
open Numeral

inductive Binary where
  | add | subtract | multiply | divide | power | root
  deriving DecidableEq

namespace Binary

def all : List Binary := [.add, .subtract, .multiply, .divide, .power, .root]

theorem mem_all (b : Binary) : b ∈ all := by cases b <;> decide

def symbol : Binary → String
  | add => "+"
  | subtract => "-"
  | multiply => "*"
  | divide => "/"
  | power => "^"
  | root => "root"

theorem symbol_injective {a b : Binary} (h : a.symbol = b.symbol) : a = b := by
  revert h
  cases a <;> cases b <;> decide

def ofSymbol? (s : String) : Option Binary := all.find? (·.symbol == s)

/-- Operators of a lower tier are carried out first. -/
def tier : Binary → Nat
  | power | root => 0
  | multiply | divide => 1
  | add | subtract => 2

theorem tier_lt (b : Binary) : b.tier < 3 := by cases b <;> decide

end Binary

def infinityOf (negative : Bool) : Float := if negative then -infinity else infinity

/-- A zero divisor leaves nothing of zero and of not-a-number; of all else it makes an infinity with
the sign of a quotient. -/
def divide (x y : Float) : Float :=
  if y == 0 then
    if x == 0 || x.isNaN then nan else infinityOf (isNegative x != isNegative y)
  else x / y

def reciprocal (x : Float) : Float := divide 1 x

def exceptionalPower? (x y : Float) : Option Float :=
  if isFinite x && isFinite y then
    if x == 0 && y < 0 then some infinity
    else if x < 0 && !isWhole y then some nan
    else none
  else none

/-- A power out of range is infinite, and negative for an odd power of a negative number. -/
def power (x y : Float) : Float :=
  match exceptionalPower? x y with
  | some z => z
  | none =>
    let z := x.pow y
    if isFinite x && isFinite y && isInfinite z then infinityOf (x < 0 && isOdd y) else z

/-- The degree of a root stands on its left. -/
def root (degree x : Float) : Float := power x (reciprocal degree)

def Binary.apply : Binary → Float → Float → Float
  | .add, x, y => x + y
  | .subtract, x, y => x - y
  | .multiply, x, y => x * y
  | .divide, x, y => Reckon.divide x y
  | .power, x, y => Reckon.power x y
  | .root, x, y => Reckon.root x y

end Reckon
