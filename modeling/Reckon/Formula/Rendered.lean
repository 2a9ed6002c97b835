import Reckon.Formula

/-! Formulas written out again: on one line with a space between items, or item by item with its
depth in front. -/
namespace Reckon
open Numeral

def Atom.text : Atom → String
  | number x => plainText x
  | unknown name => name
  | binary op => op.symbol
  | function f => f.name

namespace Formula

/-- The formula in front of `rest`, with a space before its first item unless that one leads. -/
def writeOnto (leads : Bool) : Formula → List Char → List Char
  | nil, rest => rest
  | atom a next, rest =>
    let cs := a.text.toList ++ writeOnto false next rest
    if leads then cs else ' ' :: cs
  | group inner next, rest =>
    let cs := '(' :: writeOnto true inner (')' :: writeOnto false next rest)
    if leads then cs else ' ' :: cs

def render (f : Formula) : String := String.ofList (f.writeOnto true [])

/-- The items of all groups in the order they are written, each with the number of groups around. -/
def rows (depth : Nat) : Formula → List (Nat × Item)
  | nil => []
  | atom a rest => (depth, .atom a) :: rows depth rest
  | group inner rest => (depth, .group) :: (rows (depth + 1) inner ++ rows depth rest)

/-- Puts an item in front of the rows that begin at each depth. A group takes in the row that begins
one level further down. -/
def place : Nat → Item → List Formula → List Formula
  | 0, .atom a, [] => [.atom a .nil]
  | 0, .atom a, row :: inner => .atom a row :: inner
  | 0, .group, [] => [.group .nil .nil]
  | 0, .group, [row] => [.group .nil row]
  | 0, .group, row :: inner :: further => .group inner row :: .nil :: further
  | depth + 1, item, [] => .nil :: place depth item []
  | depth + 1, item, row :: inner => row :: place depth item inner

def ofRows (rows : List (Nat × Item)) : Formula :=
  (rows.foldr (fun row levels => place row.1 row.2 levels) []).headD .nil

end Formula

def Item.line : Item → String
  | atom (.number x) => "number " ++ exactText x
  | atom (.unknown name) => "variable " ++ name
  | atom (.binary op) => "binary " ++ op.symbol
  | atom (.function f) => "function " ++ f.name
  | group => "group"

inductive Node where
  | atom (a : Atom)
  | group (inner : Formula)

def Formula.nodes : Formula → List Node
  | nil => []
  | atom a rest => .atom a :: rest.nodes
  | group inner rest => .group inner :: rest.nodes

def Formula.size : Formula → Nat
  | nil => 0
  | atom _ rest => rest.size + 1
  | group inner rest => inner.size + rest.size + 1

def Node.size : Node → Nat
  | atom _ => 1
  | group inner => inner.size + 1

/-- Nodes that wait for their turn, the next one on top, each with the number of groups around. -/
abbrev Stack := List (Nat × Node)

namespace Stack

def size : Stack → Nat
  | [] => 0
  | (_, node) :: stack => node.size + size stack

def push (depth : Nat) (nodes : List Node) (stack : Stack) : Stack :=
  nodes.reverse.foldl (fun stack node => (depth, node) :: stack) stack

theorem push_eq (depth : Nat) (nodes : List Node) (stack : Stack) :
    push depth nodes stack = nodes.map (depth, ·) ++ stack := by
  induction nodes with
  | nil => rfl
  | cons node nodes ih =>
    rw [push, List.reverse_cons, List.foldl_append, ← push, ih]
    rfl

theorem size_push (depth : Nat) (f : Formula) (stack : Stack) :
    (push depth f.nodes stack).size = f.size + stack.size := by
  rw [push_eq]
  induction f with
  | nil => exact (Nat.zero_add _).symm
  | atom a rest ih =>
    simp only [Formula.nodes, List.map_cons, List.cons_append, size, Node.size, Formula.size, ih]
    omega
  | group inner rest _ ih =>
    simp only [Formula.nodes, List.map_cons, List.cons_append, size, Node.size, Formula.size, ih]
    omega

/-- The items in the order in which they come off the stack. What is in a group goes on when the
group comes off. -/
def visit : Stack → List (Nat × Item)
  | [] => []
  | (depth, .atom a) :: stack => (depth, .atom a) :: visit stack
  | (depth, .group inner) :: stack =>
    (depth, .group) :: visit (push (depth + 1) inner.nodes stack)
termination_by stack => stack.size
decreasing_by
  · simp [size, Node.size]
  · rw [size_push]
    simp only [size, Node.size]
    omega

end Stack

def indented (depth : Nat) (line : String) : String :=
  String.ofList (List.replicate (2 * depth) ' ') ++ line

def Formula.outline (f : Formula) : List String :=
  (Stack.visit (.push 0 f.nodes [])).map fun (depth, item) => indented depth item.line

end Reckon
