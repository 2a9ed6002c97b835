import Reckon.Operator.Binary

/-! Elementary functions. Outside of its domain a function gives not-a-number; a logarithm of zero
is negative infinity. -/
namespace Reckon
open Numeral

inductive Elementary where
  | log | ln
  | sin | cos | tan | cot | sec | csc
  | arcsin | arccos | arctan | arccot | arcsec | arccsc
  deriving DecidableEq

namespace Elementary

def all : List Elementary :=
  [.log, .ln, .sin, .cos, .tan, .cot, .sec, .csc,
    .arcsin, .arccos, .arctan, .arccot, .arcsec, .arccsc]

theorem mem_all (f : Elementary) : f ∈ all := by cases f <;> decide

def name : Elementary → String
  | log => "log"
  | ln => "ln"
  | sin => "sin"
  | cos => "cos"
  | tan => "tan"
  | cot => "cot"
  | sec => "sec"
  | csc => "csc"
  | arcsin => "arcsin"
  | arccos => "arccos"
  | arctan => "arctan"
  | arccot => "arccot"
  | arcsec => "arcsec"
  | arccsc => "arccsc"

theorem name_injective {f g : Elementary} (h : f.name = g.name) : f = g := by
  revert h
  cases f <;> cases g <;> decide

def ofName? (s : String) : Option Elementary := all.find? (·.name == s)

theorem ofName?_name (f : Elementary) : ofName? f.name = some f := by
  cases f <;> decide

theorem name_of_ofName? {s : String} {f : Elementary} (h : ofName? s = some f) : f.name = s := by
  simpa using List.find?_some h

def onPositive (logarithm : Float → Float) (x : Float) : Float :=
  if x == 0 then -infinity else if x < 0 then nan else logarithm x

/-- The inverse cofunctions are the reciprocals of the inverse functions, not the inverses of the
cofunctions. -/
def apply : Elementary → Float → Float
  | log, x => onPositive Float.log10 x
  | ln, x => onPositive Float.log x
  | sin, x => x.sin
  | cos, x => x.cos
  | tan, x => x.tan
  | cot, x => reciprocal x.tan
  | sec, x => reciprocal x.cos
  | csc, x => reciprocal x.sin
  | arcsin, x => x.asin
  | arccos, x => x.acos
  | arctan, x => x.atan
  | arccot, x => reciprocal x.atan
  | arcsec, x => reciprocal x.acos
  | arccsc, x => reciprocal x.asin

end Elementary
end Reckon
