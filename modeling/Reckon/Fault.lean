import Reckon.Token
import Reckon.Numeral.Layout

/-! What can be wrong with a formula, and how it is put to the reader. -/
namespace Reckon
open Numeral

/-- What stands at one place of a formula, seen from outside. -/
inductive Item where
  | atom (a : Atom)
  | group

inductive Fault where
  | strayCharacter (c : Char) (position : Nat)
  | badNumeral (text : String) (position : Nat)
  | strayClosing (b : Bracket) (position : Nat)
  | unclosed
  | tooDeep (limit : Int)
  | emptyGroup
  | noArgument (f : Elementary)
  | unsetUnknown (name : String)
  | badArgument (f : Elementary) (got : Atom)
  | noOperand (op : Binary)
  | badOperands (op : Binary) (left right : Atom)
  | leftOver (atoms : List Atom)
  | misplaced (item : Item) (index : Nat)
  | noValueAtEnd

def Atom.describe : Atom → String
  | number x => "number " ++ briefText x
  | unknown name => "unset variable '" ++ name ++ "'"
  | binary op => "operator '" ++ op.symbol ++ "'"
  | function f => "operator '" ++ f.name ++ "'"

def Item.describe : Item → String
  | atom a => a.describe
  | group => "group"

namespace Fault

inductive Kind where
  | missingItems | unexpectedToken | unsetVariable | nestingTooDeep
  deriving DecidableEq

def Kind.label : Kind → String
  | missingItems => "MissingItems"
  | unexpectedToken => "UnexpectedToken"
  | unsetVariable => "UnsetVariable"
  | nestingTooDeep => "NestingTooDeep"

def kind : Fault → Kind
  | unclosed => .missingItems
  | tooDeep _ => .nestingTooDeep
  | unsetUnknown _ => .unsetVariable
  | _ => .unexpectedToken

def text : Fault → String
  | strayCharacter c position => s!"Unexpected character '{c}' at position {position}"
  | badNumeral run position => s!"Invalid number '{run}' at position {position}"
  | strayClosing b position =>
    s!"Unexpected closing delimiter '{b.closer}' at position {position}"
  | unclosed => "Unexpected end of input (missing closing delimiter)"
  | tooDeep limit => s!"Groups nested deeper than {limit} levels"
  | emptyGroup => "Empty expression"
  | noArgument f => s!"Function '{f.name}' has no argument"
  | unsetUnknown name => s!"Variable {name} not set"
  | badArgument f got => s!"Function '{f.name}' cannot be applied to {got.describe}"
  | noOperand op => s!"Operator '{op.symbol}' is missing an operand"
  | badOperands op left right =>
    s!"Operator '{op.symbol}' expects numbers, got {left.describe} and {right.describe}"
  | leftOver atoms =>
    "Unexpected tokens left after evaluation: " ++ ", ".intercalate (atoms.map Atom.describe)
  | misplaced item index => s!"Unexpected {item.describe} at index {index}"
  | noValueAtEnd => "Expression does not end with a value"

def message (f : Fault) : String := f.kind.label ++ " " ++ f.text

end Fault
end Reckon
