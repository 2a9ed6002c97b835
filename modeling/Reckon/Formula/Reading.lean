import Reckon.Formula
import Reckon.Token.Scan

/-! From tokens to formulas. Each opening bracket starts a row of its own, and only a closing
bracket of the same family ends it. -/
namespace Reckon

/-- What has been read so far: the innermost open row and the rows around it, each with the bracket
that opened the row inside. Rows are kept last item first. -/
structure Frames where
  row : Formula
  outer : List (Bracket × Formula)

namespace Frames

def empty : Frames := ⟨.nil, []⟩

def push (limit : Int) (s : Frames) (l : Lexeme) : Except Fault Frames :=
  match l.token with
  | .atom a => .ok ⟨.atom a s.row, s.outer⟩
  | .opening b =>
    if limit ≤ s.outer.length then .error (.tooDeep limit)
    else .ok ⟨.nil, (b, s.row) :: s.outer⟩
  | .closing b =>
    match s.outer with
    | (opened, row) :: outer =>
      if opened = b then .ok ⟨.group s.row.reverse row, outer⟩
      else .error (.strayClosing b l.position)
    | [] => .error (.strayClosing b l.position)

def finish (s : Frames) : Except Fault Formula :=
  match s.outer with
  | [] => .ok s.row.reverse
  | _ :: _ => .error .unclosed

end Frames

namespace Formula

/-- Tokens are taken one by one, so a fault among them shows before one in the text behind. -/
def ofScan (limit : Int) : List Lexeme × Option Fault → Except Fault Formula
  | (ls, fault) => do
    let s ← ls.foldlM (Frames.push limit) .empty
    match fault with
    | some f => .error f
    | none => s.finish

def read (limit : Int) (source : String) : Except Fault Formula :=
  ofScan limit (Cursor.start source).scan

end Formula
end Reckon
