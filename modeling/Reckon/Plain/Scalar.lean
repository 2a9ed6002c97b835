import Reckon.Plain.Remainder
import Reckon.Yaml.Reader

/-! What a scalar without quotes stands for: null, a truth value, a number, a date or a moment, or
else its own text. What looks like a number or a date and is none raises an exception. -/
namespace Reckon.Plain
open Text Numeral Yaml

def nullWords : List String := ["", "~", "null", "Null", "NULL"]

def trueWords : List String :=
  ["yes", "Yes", "YES", "true", "True", "TRUE", "on", "On", "ON"]

def falseWords : List String :=
  ["no", "No", "NO", "false", "False", "FALSE", "off", "Off", "OFF"]

def infinityWords : List String := [".inf", ".Inf", ".INF"]

def nanWords : List String := [".nan", ".NaN", ".NAN"]

def isGroup (p : Char → Bool) (c : Char) : Bool := p c || c == '_'

def isBinaryDigit (c : Char) : Bool := c == '0' || c == '1'
def isOctalDigit (c : Char) : Bool := '0' ≤ c && c ≤ '7'

def ungrouped (cs : List Char) : List Char := cs.filter (· != '_')

def ofBase (base : Nat) (ds : List Char) : Except Trouble Nat :=
  let ds := ungrouped ds
  if ds.isEmpty || (base == 10 && integerDigitLimit < ds.length) then .error .raised
  else .ok (ds.foldl (fun n d => base * n + hexValue d) 0)

def isDigitRun : List Char → Bool
  | [] => false
  | c :: cs => isLatinDigit c && cs.all (isGroup isLatinDigit)

def isSixtieth : List Char → Bool
  | [c] => isLatinDigit c
  | [c, d] => '0' ≤ c && c ≤ '5' && isLatinDigit d
  | _ => false

/-- The parts of a number in base sixty, as in `1:30`. -/
def sixties? (cs : List Char) : Option (List (List Char)) :=
  match splitOn ':' cs with
  | whole :: part :: parts =>
    if isDigitRun whole && (part :: parts).all isSixtieth then some (whole :: part :: parts)
    else none
  | _ => none

def ofSixties (parts : List (List Char)) : Except Trouble Nat :=
  parts.foldlM (fun n ds => (ofBase 10 ds).map (60 * n + ·)) 0

/-- Without its sign: base two, sixteen, eight, ten or sixty. -/
def natural? (cs : List Char) : Option (Except Trouble Nat) :=
  match cs with
  | ['0'] => some (.ok 0)
  | '0' :: 'b' :: d :: ds =>
    if (d :: ds).all (isGroup isBinaryDigit) then some (ofBase 2 (d :: ds)) else none
  | '0' :: 'x' :: d :: ds =>
    if (d :: ds).all (isGroup isHexDigit) then some (ofBase 16 (d :: ds)) else none
  | '0' :: d :: ds =>
    if (d :: ds).all (isGroup isOctalDigit) then some (ofBase 8 ('0' :: d :: ds)) else none
  | _ =>
    if cs.head? == some '0' then none
    else if isDigitRun cs then some (ofBase 10 cs)
    else (sixties? cs).map ofSixties

def int? (cs : List Char) : Option (Except Trouble Scalar) :=
  let (negative, cs) := sign cs
  (natural? cs).map fun n => n.map fun n => .int (if negative then -(n : Int) else n)

def power? : List Char → Option Int
  | [] => some 0
  | e :: s :: ds =>
    if (e = 'e' || e = 'E') && (s = '+' || s = '-') then
      (wholeNumber? ds).map fun n => if s = '-' then -(n : Int) else n
    else none
  | _ => none

def pointed (whole part : List Char) (power : Int) : Decimal :=
  let part := ungrouped part
  ⟨ofDigits (ungrouped whole ++ part), power - (part.length : Int)⟩

/-- A number with a point. `bare` allows none in front of it. -/
def pointed? (bare : Bool) (cs : List Char) : Option Decimal := do
  let whole := cs.takeWhile (isGroup isLatinDigit)
  match cs.dropWhile (isGroup isLatinDigit) with
  | '.' :: rest =>
    let part := rest.takeWhile (isGroup isLatinDigit)
    let k ← power? (rest.dropWhile (isGroup isLatinDigit))
    if isDigitRun whole || (bare && whole.isEmpty && isDigitRun part) then
      some (pointed whole part k)
    else none
  | _ => none

/-- The parts from the last one on, each in units of sixty times the one before; every product and
every sum is rounded. -/
def sumSixties : List Float → Float → Nat → Float
  | [], sum, _ => sum
  | x :: xs, sum, unit => sumSixties xs (sum + x * Float.ofNat unit) (60 * unit)

def pointedSixties? (cs : List Char) : Option Float := do
  let whole := cs.takeWhile (· != '.')
  match cs.dropWhile (· != '.') with
  | '.' :: part =>
    let parts ← sixties? whole
    if part.all (isGroup isLatinDigit) then
      let last := pointed (parts.getLastD []) part 0
      let firsts := parts.dropLast.map fun ds => pointed ds [] 0
      some (sumSixties ((firsts ++ [last]).reverse.map Decimal.toFloat) 0 1)
    else none
  | _ => none

def float? (s : String) : Option Float :=
  let (negative, cs) := sign s.toList
  let signed := fun x : Float => if negative then -x else x
  if infinityWords.contains (String.ofList cs) then some (signed infinity)
  else if nanWords.contains s then some nan
  else
    match pointed? (cs.length == s.length) cs with
    | some d => some (signed d.toFloat)
    | none => (pointedSixties? cs).map signed

def digitsBetween? (least most : Nat) (ds : List Char) : Option Nat :=
  if least ≤ ds.length && ds.length ≤ most && ds.all isLatinDigit then some (ofDigits ds)
  else none

def yearMonthDay? (width : Nat) (cs : List Char) : Option Date :=
  match splitOn '-' cs with
  | [y, m, d] => do
    return ⟨← digitsBetween? 4 4 y, ← digitsBetween? width 2 m, ← digitsBetween? width 2 d⟩
  | _ => none

def clock? (cs : List Char) : Option (Nat × Nat × Nat) :=
  match splitOn ':' cs with
  | [h, m, s] => do return (← digitsBetween? 1 2 h, ← digitsBetween? 2 2 m, ← digitsBetween? 2 2 s)
  | _ => none

/-- The minutes ahead of universal time: nothing, a `Z`, or a sign with hours and perhaps
minutes. -/
def ahead? (cs : List Char) : Option (Option Int) :=
  match cs.dropWhile fun c => c == ' ' || c == '\t' with
  | [] => if cs.isEmpty then some none else none
  | ['Z'] => some (some 0)
  | s :: ds =>
    let signed := fun n : Nat => if s = '-' then -(n : Int) else n
    if s = '+' || s = '-' then
      match splitOn ':' ds with
      | [h] => (digitsBetween? 1 2 h).map fun h => some (signed (60 * h))
      | [h, m] => do
        return some (signed (60 * (← digitsBetween? 1 2 h) + (← digitsBetween? 2 2 m)))
      | _ => none
    else none

def isLeap (year : Nat) : Bool := year % 4 == 0 && (year % 100 != 0 || year % 400 == 0)

def daysOf (year month : Nat) : Nat :=
  if month = 2 then if isLeap year then 29 else 28
  else if [4, 6, 9, 11].contains month then 30 else 31

def isReal (d : Date) : Bool :=
  0 < d.year && 0 < d.month && d.month ≤ 12 && 0 < d.day && d.day ≤ daysOf d.year d.month

def microseconds (part : List Char) : Nat :=
  ofDigits ((part ++ List.replicate 6 '0').take 6)

/-- A moment that is no time of day, or too far from universal time, is none. -/
def moment (d : Date) (h m s fraction : Nat) (ahead : Option Int) : Except Trouble Scalar :=
  if isReal d && h < 24 && m < 60 && s < 60 && ahead.all fun k => k.natAbs < 24 * 60 then
    .ok (.moment ⟨d, 1000000 * (3600 * h + 60 * m + s) + fraction, ahead⟩)
  else .error .raised

def isTimeMark (c : Char) : Bool := c == 'T' || c == 't' || c == ' ' || c == '\t'

def afterTimeMark : List Char → List Char
  | 'T' :: cs | 't' :: cs => cs
  | cs => cs.dropWhile fun c => c == ' ' || c == '\t'

def isClockChar (c : Char) : Bool := isLatinDigit c || c == ':'

def moment? (cs : List Char) : Option (Except Trouble Scalar) := do
  let d ← yearMonthDay? 1 (cs.takeWhile (!isTimeMark ·))
  let rest := afterTimeMark (cs.dropWhile (!isTimeMark ·))
  let (h, m, s) ← clock? (rest.takeWhile isClockChar)
  let rest := rest.dropWhile isClockChar
  let (part, rest) := match rest with
    | '.' :: r => (r.takeWhile isLatinDigit, r.dropWhile isLatinDigit)
    | r => ([], r)
  return moment d h m s (microseconds part) (← ahead? rest)

def date? (cs : List Char) : Option (Except Trouble Scalar) :=
  match yearMonthDay? 2 cs with
  | some d => some (if isReal d then .ok (.date d) else .error .raised)
  | none => moment? cs

def ofPlain (cs : List Char) : Except Trouble Scalar :=
  let s := String.ofList cs
  if nullWords.contains s then .ok .null
  else if trueWords.contains s then .ok (.bool true)
  else if falseWords.contains s then .ok (.bool false)
  else
    match int? cs, float? s, date? cs with
    | some i, _, _ => i
    | none, some x, _ => .ok (.float x)
    | none, none, some d => d
    | none, none, none => .ok (.text s)

end Reckon.Plain
