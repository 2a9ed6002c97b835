import Reckon.Formula

/-! Well-formed rows: a value, and then an operator and a value any number of times, with a function
in front of the first value at most. -/
namespace Reckon

inductive Place where
  | start | afterOperator | afterValue
  deriving DecidableEq

def Place.step : Place → Item → Option Place
  | .start, .atom (.function _) => some .afterOperator
  | .afterValue, .atom (.binary _) => some .afterOperator
  | .afterValue, _ => none
  | _, .group => some .afterValue
  | _, .atom (.number _) => some .afterValue
  | _, .atom (.unknown _) => some .afterValue
  | _, _ => none

namespace Formula

/-- The first violation from here to the end of the row, inside `depth` groups. A group is looked
into as soon as it is reached. -/
def check (limit : Int) (depth : Nat) : Place → Nat → Formula → Except Fault Unit
  | p, _, nil => if p = .afterValue then .ok () else .error .noValueAtEnd
  | p, index, atom a rest =>
    match p.step (.atom a) with
    | none => .error (.misplaced (.atom a) index)
    | some q => check limit depth q (index + 1) rest
  | p, index, group inner rest =>
    match p.step .group with
    | none => .error (.misplaced .group index)
    | some q =>
      if limit ≤ depth then .error (.tooDeep limit)
      else do
        check limit (depth + 1) .start 0 inner
        check limit depth q (index + 1) rest

def validate (limit : Int) (f : Formula) : Except Fault Unit := f.check limit 0 .start 0

end Formula
end Reckon
