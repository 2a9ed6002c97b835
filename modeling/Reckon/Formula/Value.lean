import Reckon.Formula

/-! The value of a formula. Groups give way to their values from the inside out. In the row of atoms
that is left, functions come first, and then the binary operators tier by tier, each tier from left
to right. -/
namespace Reckon

/-- Every function takes the number on its right. What it gives is no argument of the function on
its left. -/
def applyFunctions : List Atom → Except Fault (List Atom)
  | [] => .ok []
  | .function f :: rest =>
    match rest with
    | [] => .error (.noArgument f)
    | .number x :: rest => (applyFunctions rest).map (.number (f.apply x) :: ·)
    | .unknown name :: _ => .error (.unsetUnknown name)
    | a :: _ => .error (.badArgument f a)
  | a :: rest => (applyFunctions rest).map (a :: ·)

/-- Every operator of the tier takes the numbers beside it, and what it gives is the left operand of
the next one. `left` is what stands before the row. -/
def applyTier (tier : Nat) (left : Option Atom) : List Atom → Except Fault (List Atom)
  | [] => .ok left.toList
  | .binary op :: rest =>
    if op.tier = tier then
      match left, rest with
      | some (.number x), .number y :: rest =>
        applyTier tier (some (.number (op.apply x y))) rest
      | some a, b :: _ => .error (.badOperands op a b)
      | _, _ => .error (.noOperand op)
    else (applyTier tier (some (.binary op)) rest).map (left.toList ++ ·)
  | a :: rest => (applyTier tier (some a) rest).map (left.toList ++ ·)

def single : List Atom → Except Fault Float
  | [.number x] => .ok x
  | atoms => .error (.leftOver atoms)

def reduce (atoms : List Atom) : Except Fault Float :=
  if atoms.isEmpty then .error .emptyGroup
  else do
    let atoms ← applyFunctions atoms
    let atoms ← applyTier 0 none atoms
    let atoms ← applyTier 1 none atoms
    let atoms ← applyTier 2 none atoms
    single atoms

namespace Formula

def settle (limit : Int) (depth : Nat) : Formula → Except Fault (List Atom)
  | nil => .ok []
  | atom a rest => do
    let atoms ← settle limit depth rest
    return a :: atoms
  | group inner rest =>
    if limit ≤ depth then .error (.tooDeep limit)
    else do
      let atoms ← settle limit (depth + 1) inner
      let x ← reduce atoms
      let atoms ← settle limit depth rest
      return .number x :: atoms

def evaluate (limit : Int) (f : Formula) : Except Fault Float := do
  let atoms ← f.settle limit 0
  reduce atoms

end Formula
end Reckon
