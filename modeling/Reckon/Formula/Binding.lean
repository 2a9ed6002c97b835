import Reckon.Formula
import Reckon.Text.Ascending

/-! Unknowns and what takes their place. All occurrences are replaced at once, and what has been put
in is not searched again. -/
namespace Reckon

inductive Entry where
  | number (x : Float)
  | group (inner : Formula)

def Entry.onto : Entry → Formula → Formula
  | number x, rest => .atom (.number x) rest
  | group inner, rest => .group inner rest

abbrev Assignment := String → Option Entry

def Assignment.single (name : String) (e : Entry) : Assignment :=
  fun s => if s = name then some e else none

def Atom.replacement? (σ : Assignment) : Atom → Option Entry
  | unknown name => σ name
  | _ => none

namespace Formula

def replace (σ : Assignment) : Formula → Formula
  | nil => nil
  | atom a rest =>
    match a.replacement? σ with
    | some e => e.onto (replace σ rest)
    | none => atom a (replace σ rest)
  | group inner rest => group (replace σ inner) (replace σ rest)

def bind (f : Formula) (name : String) (x : Float) : Formula :=
  f.replace (.single name (.number x))

def bindFormula (f : Formula) (name : String) (g : Formula) : Formula :=
  f.replace (.single name (.group g))

def unknowns : Formula → List String
  | nil => []
  | atom (.unknown name) rest => name :: rest.unknowns
  | atom _ rest => rest.unknowns
  | group inner rest => inner.unknowns ++ rest.unknowns

def occurrences (f : Formula) (name : String) : Nat := f.unknowns.count name

/-- One search through all rows: what the formula becomes with `e` in place of the name, and the
number of places where that was done. -/
def substitute (name : String) (e : Entry) : Formula → Formula × Nat
  | nil => (nil, 0)
  | atom a rest =>
    let (rest, count) := substitute name e rest
    match a.replacement? (.single name e) with
    | some e => (e.onto rest, count + 1)
    | none => (atom a rest, count)
  | group inner rest =>
    let (inner, within) := substitute name e inner
    let (rest, count) := substitute name e rest
    (group inner rest, within + count)

def unresolved (f : Formula) : List String := Text.ascending f.unknowns

theorem mem_unresolved {f : Formula} {name : String} :
    name ∈ f.unresolved ↔ name ∈ f.unknowns := Text.mem_ascending

theorem replace_append (σ : Assignment) (f g : Formula) :
    (f ++ g).replace σ = f.replace σ ++ g.replace σ := by
  induction f with
  | nil => rfl
  | atom a rest ih =>
    simp only [atom_append, replace, ih]
    cases a.replacement? σ with
    | none => rfl
    | some e => cases e <;> rfl
  | group inner rest _ ih => simp only [group_append, replace, ih]

theorem unknowns_append (f g : Formula) : (f ++ g).unknowns = f.unknowns ++ g.unknowns := by
  induction f with
  | nil => rfl
  | atom a rest ih => cases a <;> simp [unknowns, ih]
  | group inner rest _ ih => simp only [group_append, unknowns, ih, List.append_assoc]

end Formula
end Reckon
