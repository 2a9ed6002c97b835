import Reckon.Text.Printable

/-! Texts in quotes, on one line and printable: all else is escaped. -/
namespace Reckon.Text

def hexDigits (width n : Nat) : List Char :=
  let ds := Nat.toDigits 16 n
  List.replicate (width - ds.length) '0' ++ ds

def hexEscape (n : Nat) : List Char :=
  if n < 0x100 then '\x5c' :: 'x' :: hexDigits 2 n
  else if n < 0x10000 then '\x5c' :: 'u' :: hexDigits 4 n
  else '\x5c' :: 'U' :: hexDigits 8 n

def escapeChar (quote c : Char) : List Char :=
  if c = '\x5c' || c = quote then ['\x5c', c]
  else if c = '\n' then ['\x5c', 'n']
  else if c = '\r' then ['\x5c', 'r']
  else if c = '\t' then ['\x5c', 't']
  else if isPrintable c then [c]
  else hexEscape c.toNat

/-- Single quotes, unless the text holds one and no double quote. -/
def quoteOf (cs : List Char) : Char :=
  if cs.contains '\x27' && !cs.contains '\x22' then '\x22' else '\x27'

def quoted (s : String) : String :=
  let q := quoteOf s.toList
  String.ofList (q :: s.toList.flatMap (escapeChar q) ++ [q])

end Reckon.Text
