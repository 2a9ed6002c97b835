import Reckon.Numeral.Decimal
import Reckon.Text.Digit
import Reckon.Text.Blank

/-! Numbers written out: `12`, `.5`, `1_000.5e-3`, `-inf`. Digits of every script count, and white
space around a number does not. -/
namespace Reckon.Numeral
open Reckon.Text

def isLatinDigit (c : Char) : Bool := '0' ≤ c && c ≤ '9'

def ofDigits (ds : List Char) : Nat := ds.foldl (fun n d => 10 * n + (d.toNat - 48)) 0

def fraction? (cs : List Char) : Option (Decimal × List Char) :=
  let whole := cs.takeWhile isLatinDigit
  let rest := cs.dropWhile isLatinDigit
  let (part, rest) := match rest with
    | '.' :: r => (r.takeWhile isLatinDigit, r.dropWhile isLatinDigit)
    | r => ([], r)
  if whole.isEmpty && part.isEmpty then none
  else some (⟨ofDigits (whole ++ part), -(part.length : Int)⟩, rest)

def sign : List Char → Bool × List Char
  | '-' :: cs => (true, cs)
  | '+' :: cs => (false, cs)
  | cs => (false, cs)

def wholeNumber? (cs : List Char) : Option Nat :=
  if cs.isEmpty || !cs.all isLatinDigit then none else some (ofDigits cs)

def integer? (cs : List Char) : Option Int :=
  let (negative, cs) := sign cs
  (wholeNumber? cs).map fun n => if negative then -(n : Int) else n

def decimal? (cs : List Char) : Option Decimal := do
  let (d, rest) ← fraction? cs
  match rest with
  | [] => some d
  | c :: power =>
    if c = 'e' || c = 'E' then
      let k ← integer? power
      some { d with exponent := d.exponent + k }
    else none

def lower (cs : List Char) : List Char := cs.map Char.toLower

def magnitude? (cs : List Char) : Option Float :=
  let word := String.ofList (lower cs)
  if word = "inf" || word = "infinity" then some infinity
  else if word = "nan" then some nan
  else (decimal? cs).map Decimal.toFloat

def double? (cs : List Char) : Option Float :=
  let (negative, cs) := sign cs
  (magnitude? cs).map fun x => if negative then -x else x

/-- Takes out the underscores; each has to stand between two digits. -/
def ungroup (afterDigit : Bool) : List Char → Option (List Char)
  | [] => some []
  | '_' :: cs =>
    match cs with
    | d :: _ => if afterDigit && isLatinDigit d then ungroup false cs else none
    | [] => none
  | c :: cs => (ungroup (isLatinDigit c) cs).map (c :: ·)

/-- The control characters that part files, groups, records and units are blank elsewhere, but not
around a number. -/
def isMargin (c : Char) : Bool := isBlank c && !(28 ≤ c.toNat && c.toNat ≤ 31)

def latinForm (cs : List Char) : Option (List Char) :=
  ungroup false ((trimBy isMargin cs).map latinDigit)

def read? (s : String) : Option Float := latinForm s.toList >>= double?

/-- More digits than this are refused, zeros in front included. -/
def integerDigitLimit : Nat := 4300

def readInteger? (s : String) : Option Int := do
  let cs ← latinForm s.toList
  let k ← integer? cs
  if (sign cs).2.length ≤ integerDigitLimit then some k else none

/-- A run of digits and points. It names a number when at most one point is in it. -/
def readRun? (run : List Char) : Option Float :=
  match fraction? (run.map latinDigit) with
  | some (d, []) => some d.toFloat
  | _ => none

end Reckon.Numeral
