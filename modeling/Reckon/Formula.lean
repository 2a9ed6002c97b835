import Reckon.Fault

/-! Formulas as they are written: a row of atoms and of groups, which hold rows of their own.
Nothing is said yet about what belongs to which operator, and any row will do, the empty one
included. -/
namespace Reckon

/-- A row, from its first item on. -/
inductive Formula where
  | nil
  | atom (a : Atom) (rest : Formula)
  | group (inner rest : Formula)

namespace Formula

def append : Formula → Formula → Formula
  | nil, g => g
  | atom a rest, g => atom a (append rest g)
  | group inner rest, g => group inner (append rest g)

instance : Append Formula := ⟨append⟩

@[simp] theorem nil_append (g : Formula) : nil ++ g = g := rfl
@[simp] theorem atom_append (a : Atom) (f g : Formula) : atom a f ++ g = atom a (f ++ g) := rfl
@[simp] theorem group_append (i f g : Formula) : group i f ++ g = group i (f ++ g) := rfl

@[simp] theorem append_nil (f : Formula) : f ++ nil = f := by
  induction f with
  | nil => rfl
  | atom a rest ih => rw [atom_append, ih]
  | group inner rest _ ih => rw [group_append, ih]

theorem append_assoc (f g h : Formula) : f ++ g ++ h = f ++ (g ++ h) := by
  induction f with
  | nil => rfl
  | atom a rest ih => simp only [atom_append, ih]
  | group inner rest _ ih => simp only [group_append, ih]

/-- The items of `f`, last first, and then `g`. Groups are turned as wholes. -/
def reverseOnto : Formula → Formula → Formula
  | nil, g => g
  | atom a rest, g => reverseOnto rest (atom a g)
  | group inner rest, g => reverseOnto rest (group inner g)

def reverse (f : Formula) : Formula := f.reverseOnto nil

theorem reverseOnto_eq (f g : Formula) : f.reverseOnto g = f.reverse ++ g := by
  suffices h : ∀ g h, f.reverseOnto (g ++ h) = f.reverseOnto g ++ h from h nil g
  induction f with
  | nil => intro g h; rfl
  | atom a rest ih => intro g h; exact ih (atom a g) h
  | group inner rest _ ih => intro g h; exact ih (group inner g) h

def length : Formula → Nat
  | nil => 0
  | atom _ rest => rest.length + 1
  | group _ rest => rest.length + 1

theorem length_append (f g : Formula) : (f ++ g).length = f.length + g.length := by
  induction f with
  | nil => exact (Nat.zero_add _).symm
  | atom a rest ih => simp only [atom_append, length, ih]; omega
  | group inner rest _ ih => simp only [group_append, length, ih]; omega

def depth : Formula → Nat
  | nil => 0
  | atom _ rest => rest.depth
  | group inner rest => max (inner.depth + 1) rest.depth

theorem depth_append (f g : Formula) : (f ++ g).depth = max f.depth g.depth := by
  induction f with
  | nil => exact (Nat.zero_max _).symm
  | atom a rest ih => exact ih
  | group inner rest _ ih => simp only [group_append, depth, ih, Nat.max_assoc]

def items : Formula → List Item
  | nil => []
  | atom a rest => .atom a :: rest.items
  | group _ rest => .group :: rest.items

/-- The formula written with round brackets. -/
def tokens : Formula → List Token
  | nil => []
  | atom a rest => .atom a :: rest.tokens
  | group inner rest => .opening .round :: inner.tokens ++ .closing .round :: rest.tokens

end Formula
end Reckon
