import Reckon.Token
import Reckon.Numeral.Layout
import Reckon.Text.Quoted

/-! How tokens are listed: the sort of a token, its value, and where it stands. -/
namespace Reckon
open Numeral Text

def Binary.title : Binary → String
  | .add => "ADD"
  | .subtract => "SUBTRACT"
  | .multiply => "MULTIPLY"
  | .divide => "DIVIDE"
  | .power => "POWER"
  | .root => "ROOT"

/-- The operator as a sign in a text; roots have none. -/
def Binary.sort : Binary → String
  | .add => "PLUS"
  | .subtract => "MINUS"
  | op => op.title

def Elementary.title (f : Elementary) : String := f.name.toUpper

def Token.sort : Token → String
  | .atom (.number _) => "NUMBER"
  | .atom (.unknown _) => "IDENTIFIER"
  | .atom (.function _) => "FUNCTION"
  | .atom (.binary op) => op.sort
  | .opening .round => "LPAREN"
  | .closing .round => "RPAREN"
  | .opening .square => "LBRACKET"
  | .closing .square => "RBRACKET"

def Token.value : Token → String
  | .atom (.number x) => exactText x
  | .atom (.unknown name) => name
  | .atom (.function f) => f.name
  | .atom (.binary op) => op.symbol
  | .opening b => b.opener.toString
  | .closing b => b.closer.toString

def Token.listedValue : Token → String
  | .atom (.number x) => exactText x
  | .atom (.function f) => "<FunctionalOp." ++ f.title ++ ": " ++ quoted f.name ++ ">"
  | .atom (.binary op) => "<BinaryOp." ++ op.title ++ ": " ++ quoted op.symbol ++ ">"
  | t => quoted t.value

def listing (sort value : String) (position : Nat) : String :=
  s!"Token({sort}, {value}, pos={position})"

def Lexeme.listed (l : Lexeme) : String := listing l.token.sort l.token.listedValue l.position

def endListed (position : Nat) : String := listing "EOF" "None" position

end Reckon
