import Reckon.Bindings.Sources
import Reckon.Plain.Tree

/-! Rules of coercion: a name is a text or the bytes of one; a number is a float, a whole number in
the range of doubles, a truth value as one or zero, or what spells a number. -/
namespace Reckon.Plain
open Text Numeral Yaml

/-- Underscores one at a time, neither first nor last. -/
def dropUnderscores (cs : List Char) : Option (List Char) :=
  if cs.head? == some '_' || cs.getLast? == some '_' ||
      (splitOn '_' cs).tail.dropLast.any (·.isEmpty)
  then none
  else some (cs.filter (· != '_'))

def ofText? (s : String) : Option Float :=
  match double? (trimBy isMargin s.toList) with
  | some x => some x
  | none => dropUnderscores s.toList >>= double?

def ofInt? (i : Int) : Option Float :=
  let x := Decimal.toFloat ⟨i.natAbs, 0⟩
  if isFinite x then some (if i < 0 then -x else x) else none

def nameOf? : Scalar → Option String
  | .text s => some s
  | .bytes bs => Bindings.ofBytes? bs
  | _ => none

def numberOf? : Tree → Option Float
  | .scalar (.float x) => some x
  | .scalar (.int i) => ofInt? i
  | .scalar (.bool b) => some (if b then 1 else 0)
  | .scalar s => nameOf? s >>= ofText?
  | _ => none

def coercion : Bindings.Coercion reader.Value := ⟨nameOf?, numberOf?⟩

theorem nameOf?_eq_some_iff (key : Scalar) (name : String) :
    nameOf? key = some name ↔ Bindings.KeyFor key name := by
  cases key <;> simp [nameOf?, Bindings.KeyFor]

theorem coercion_lawful : coercion.Lawful where
  name_iff := nameOf?_eq_some_iff
  number_of_float v x h := by
    cases v with
    | scalar s =>
      cases h
      rfl
    | list | mapping => cases h
  number_of_mapping v m h := by
    cases v with
    | mapping => rfl
    | scalar | list => cases h

end Reckon.Plain
