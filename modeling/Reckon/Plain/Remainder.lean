import Reckon.Text.Split
import Reckon.Text.Blank
import Reckon.Numeral.Reading

/-! What is left to read of a document: what is passed over between tokens, scalars without quotes,
and scalars in quotes. -/
namespace Reckon.Plain
open Text Numeral

structure Remainder where
  rest : List Char
  line : Nat
  column : Nat

def Remainder.drop (s : Remainder) (n : Nat) : Remainder := ⟨s.rest.drop n, s.line, s.column + n⟩

def startsBlank : List Char → Bool
  | [] => true
  | c :: _ => c == ' ' || c == '\t' || c == '\n'

/-- Passes over spaces, comments and line breaks. A tab is none of these. -/
def skipFrom (comment : Bool) (line column : Nat) : List Char → Remainder
  | [] => ⟨[], line, column⟩
  | '\n' :: cs => skipFrom false (line + 1) 0 cs
  | c :: cs =>
    if comment || c == ' ' then skipFrom comment line (column + 1) cs
    else if c == '#' then skipFrom true line (column + 1) cs
    else ⟨c :: cs, line, column⟩

def Remainder.skip (s : Remainder) : Remainder := skipFrom false s.line s.column s.rest

def Remainder.skipSpaces (s : Remainder) : Remainder :=
  s.drop (s.rest.takeWhile (· == ' ')).length

def Remainder.marks (s : Remainder) (mark : Char) : Bool :=
  s.column == 0 && s.rest.take 3 == [mark, mark, mark] && startsBlank (s.rest.drop 3)

def Remainder.ended (s : Remainder) : Bool := s.rest.isEmpty || s.marks '-' || s.marks '.'

def Remainder.startsItem (s : Remainder) : Bool :=
  match s.rest with
  | '-' :: cs => startsBlank cs
  | _ => false

def isFlowMark (c : Char) : Bool := [',', '?', '[', ']', '\x7b', '\x7d'].contains c

def isBracket (c : Char) : Bool := [',', '[', ']', '\x7b', '\x7d'].contains c

def endsKey (flow : Bool) (next : List Char) : Bool :=
  startsBlank next || (flow && next.head?.any isBracket)

def endsPlain (flow afterSpace : Bool) (c : Char) (next : List Char) : Bool :=
  c == '\n' || c == '\t' || (c == '#' && afterSpace) || (c == ':' && endsKey flow next) ||
    (flow && isFlowMark c)

def isIndicator (c : Char) : Bool :=
  [' ', '\t', '\n', '-', '?', ':', ',', '[', ']', '\x7b', '\x7d', '#', '&', '*', '!', '|', '>',
    '\x27', '\x22', '%', '@', '\x60'].contains c

def startsPlain (flow : Bool) : List Char → Bool
  | [] => false
  | c :: next =>
    !isIndicator c || (!startsBlank next && (c == '-' || (!flow && (c == '?' || c == ':'))))

def plainRun (flow afterSpace : Bool) : List Char → List Char × List Char
  | [] => ([], [])
  | c :: cs =>
    if endsPlain flow afterSpace c cs then ([], c :: cs)
    else
      let (run, rest) := plainRun flow (c == ' ') cs
      (c :: run, rest)

def trimEnd (cs : List Char) : List Char := trimEndBy (· == ' ') cs

def trimStart (cs : List Char) : List Char := cs.dropWhile (· == ' ')

def nextLine (breaks column : Nat) : List Char → Nat × Nat × List Char
  | '\n' :: cs => nextLine (breaks + 1) 0 cs
  | ' ' :: cs => nextLine breaks (column + 1) cs
  | cs => (breaks, column, cs)

/-- A single line break reads as a space; of more than one, the first is dropped. -/
def foldedBreaks : Nat → List Char
  | 0 => []
  | 1 => [' ']
  | n + 2 => List.replicate (n + 1) '\n'

/-- A plain scalar over as many lines as belong to it: outside of brackets, those that begin at the
column `indent` or further in. -/
def plainLines (flow : Bool) (indent : Nat) : Nat → Remainder → List Char × Remainder
  | 0, s => ([], s)
  | fuel + 1, s =>
    let (run, rest) := plainRun flow false s.rest
    let here : Remainder := ⟨rest, s.line, s.column + run.length⟩
    let text := trimEnd run
    let (breaks, column, more) := nextLine 0 0 rest
    let there : Remainder := ⟨more, s.line + breaks, column⟩
    if rest.head? != some '\n' || there.ended || more.head? == some '#' ||
        (!flow && column < indent) || (plainRun flow false more).1.isEmpty then (text, here)
    else
      let (further, s) := plainLines flow indent fuel there
      (text ++ foldedBreaks breaks ++ further, s)

/-- What stands before the closing quote, and what is left behind it. In single quotes a quote is
written twice, in double quotes a backslash takes the next character with it. -/
def quotedRun (quote : Char) (line column : Nat) : List Char → Option (List Char × Remainder)
  | [] => none
  | '\n' :: cs =>
    (quotedRun quote (line + 1) 0 cs).map fun (run, s) => ('\n' :: run, s)
  | c :: cs =>
    if c = quote then
      match cs with
      | d :: ds =>
        if quote = '\x27' && d = quote then
          (quotedRun quote line (column + 2) ds).map fun (run, s) => (quote :: run, s)
        else some ([], ⟨cs, line, column + 1⟩)
      | [] => some ([], ⟨[], line, column + 1⟩)
    else if quote = '\x22' && c = '\x5c' then
      match cs with
      | d :: ds =>
        (quotedRun quote line (column + 2) ds).map fun (run, s) => (c :: d :: run, s)
      | [] => none
    else (quotedRun quote line (column + 1) cs).map fun (run, s) => (c :: run, s)

def foldLines (breaks : Nat) : List (List Char) → List Char
  | [] => []
  | [l] => foldedBreaks breaks ++ trimStart l
  | l :: ls =>
    let l := trimEnd (trimStart l)
    if l.isEmpty then foldLines (breaks + 1) ls else foldedBreaks breaks ++ l ++ foldLines 1 ls

def foldQuoted (run : List Char) : List Char :=
  match splitOn '\n' run with
  | [] => []
  | [l] => l
  | l :: ls => trimEnd l ++ foldLines 1 ls

def escaped? : Char → Option Char
  | '0' => some '\x00'
  | 'a' => some '\x07'
  | 'b' => some '\x08'
  | 't' => some '\t'
  | '\t' => some '\t'
  | 'n' => some '\n'
  | 'v' => some '\x0b'
  | 'f' => some '\x0c'
  | 'r' => some '\r'
  | 'e' => some '\x1b'
  | ' ' => some ' '
  | '\x22' => some '\x22'
  | '/' => some '/'
  | '\x5c' => some '\x5c'
  | 'N' => some '\u0085'
  | '_' => some '\u00a0'
  | 'L' => some '\u2028'
  | 'P' => some '\u2029'
  | _ => none

def isHexDigit (c : Char) : Bool :=
  isLatinDigit c || ('a' ≤ c && c ≤ 'f') || ('A' ≤ c && c ≤ 'F')

def hexValue (c : Char) : Nat :=
  if isLatinDigit c then c.toNat - 48 else (c.toNat ||| 32) - 87

def escapeWidth? : Char → Option Nat
  | 'x' => some 2
  | 'u' => some 4
  | 'U' => some 8
  | _ => none

/-- `width` is the number of digits that still belong to the code point `n`. -/
def unescape (width n : Nat) : List Char → Option (List Char)
  | [] => if width = 0 then some [] else none
  | c :: cs =>
    if width = 0 then
      if c = '\x5c' then
        match cs with
        | d :: ds =>
          match escapeWidth? d with
          | some k => unescape k 0 ds
          | none => do return (← escaped? d) :: (← unescape 0 0 ds)
        | [] => none
      else (unescape 0 0 cs).map (c :: ·)
    else
      let n := 16 * n + hexValue c
      if !isHexDigit c then none
      else if width = 1 then
        if n.isValidChar then (unescape 0 0 cs).map (Char.ofNat n :: ·) else none
      else unescape (width - 1) n cs

def quotedScalar (s : Remainder) : Option (String × Remainder) :=
  match s.rest with
  | '\x27' :: cs =>
    (quotedRun '\x27' s.line (s.column + 1) cs).map fun (run, s) =>
      (String.ofList (foldQuoted run), s)
  | '\x22' :: cs => do
    let (run, s) ← quotedRun '\x22' s.line (s.column + 1) cs
    let text ← unescape 0 0 (foldQuoted run)
    return (String.ofList text, s)
  | _ => none

end Reckon.Plain
