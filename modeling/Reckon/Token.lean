import Reckon.Operator.Elementary

/-! The words a formula is written in. An atom stands for itself wherever it is; brackets only say
what belongs together, and which of the two families was used is forgotten with them. -/
namespace Reckon

inductive Atom where
  | number (x : Float)
  | unknown (name : String)
  | binary (op : Binary)
  | function (f : Elementary)

inductive Bracket where
  | round | square
  deriving DecidableEq

def Bracket.opener : Bracket → Char
  | round => '('
  | square => '['

def Bracket.closer : Bracket → Char
  | round => ')'
  | square => ']'

inductive Token where
  | atom (a : Atom)
  | opening (b : Bracket)
  | closing (b : Bracket)

structure Lexeme where
  token : Token
  position : Nat

/-- A name on its own. The names of functions are taken. -/
def Atom.ofName (s : String) : Atom :=
  match Elementary.ofName? s with
  | some f => .function f
  | none => .unknown s

def Token.ofSymbol? : Char → Option Token
  | '+' => some (.atom (.binary .add))
  | '-' => some (.atom (.binary .subtract))
  | '*' => some (.atom (.binary .multiply))
  | '/' => some (.atom (.binary .divide))
  | '^' => some (.atom (.binary .power))
  | '(' => some (.opening .round)
  | ')' => some (.closing .round)
  | '[' => some (.opening .square)
  | ']' => some (.closing .square)
  | _ => none

end Reckon
