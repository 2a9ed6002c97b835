import Reckon.Numeral.Shortest

/-! How decimals are written: positional notation from `0.0001` up to a ceiling, scientific notation
outside of it, and never a zero after the last digit that counts. -/
namespace Reckon.Numeral

structure Layout where
  /-- The first power of ten that is written scientifically. -/
  ceiling : Int
  /-- Whether a whole number ends in `.0`. -/
  point : Bool

def exact : Layout := ⟨16, true⟩

def brief : Layout := ⟨6, false⟩

def trimZeros : List Char → List Char
  | [] => []
  | c :: cs =>
    match trimZeros cs with
    | [] => if c = '0' then [] else [c]
    | d :: ds => c :: d :: ds

/-- The first digit stands, even if it is zero. -/
def significant : List Char → List Char
  | [] => []
  | c :: cs => c :: trimZeros cs

/-- The point stands after `place` digits, or before that many zeros if `place` is negative. -/
def positional (l : Layout) (ds : List Char) (place : Int) : List Char :=
  if place ≤ 0 then '0' :: '.' :: (List.replicate (-place).toNat '0' ++ ds)
  else
    let n := place.toNat
    if ds.length ≤ n then
      ds ++ List.replicate (n - ds.length) '0' ++ if l.point then ['.', '0'] else []
    else ds.take n ++ '.' :: ds.drop n

def twoDigits (n : Nat) : List Char :=
  let ds := digits n
  if ds.length < 2 then '0' :: ds else ds

def scientific (ds : List Char) (order : Int) : List Char :=
  let head := match ds with
    | [] => []
    | [c] => [c]
    | c :: cs => c :: '.' :: cs
  head ++ 'e' :: (if order < 0 then '-' else '+') :: twoDigits order.natAbs

def Layout.write (l : Layout) (d : Decimal) : List Char :=
  let ds := significant (digits d.coefficient)
  if -4 ≤ d.order ∧ d.order < l.ceiling then positional l ds (d.order + 1)
  else scientific ds d.order

def signed (negative : Bool) (cs : List Char) : List Char := if negative then '-' :: cs else cs

def exactText (x : Float) : String :=
  String.ofList <| match shape x with
    | .nan => ['n', 'a', 'n']
    | .infinite s => signed s ['i', 'n', 'f']
    | .finite s d => signed s (exact.write (shortest (x.toBits.toNat % twoTo 63) d))

def briefText (x : Float) : String :=
  String.ofList <| match shape x with
    | .nan => ['n', 'a', 'n']
    | .infinite s => signed s ['i', 'n', 'f']
    | .finite s d => signed s (brief.write (roundTo 6 d.num d.den))

/-- A whole number digit by digit, without a sign on zero; all else in the fewest digits. -/
def plainText (x : Float) : String :=
  match shape x with
  | .finite s d =>
    match d.whole? with
    | some n => String.ofList (signed (s && n != 0) (digits n))
    | none => exactText x
  | _ => exactText x

end Reckon.Numeral
