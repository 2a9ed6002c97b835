import Reckon.Plain.Scalar

/-! A reader of plain documents: mappings and lists by indentation or in brackets, down to scalars,
which may have the one tag for bytes. All else that documents may hold (anchors, other tags, blocks
of text, keys behind a question mark, merged mappings) is refused as if it were malformed.

Every function takes what is left to read and gives what is left then; `fuel` is more than the
number of steps that the text can take. -/
namespace Reckon.Plain
open Text Numeral Yaml

inductive Leaf where
  | plain (cs : List Char)
  | quoted (s : String)
  | binary (cs : List Char)

inductive DocNode where
  | leaf (l : Leaf)
  | list (items : List DocNode)
  | mapping (entries : List (Leaf × DocNode))

def Leaf.asBinary : Leaf → Leaf
  | plain cs | binary cs => binary cs
  | quoted s => binary s.toList

def isQuote (c : Char) : Bool := c == '\x27' || c == '\x22'

def afterTag? (s : Remainder) : Option Remainder :=
  match s.rest with
  | '!' :: '!' :: 'b' :: 'i' :: 'n' :: 'a' :: 'r' :: 'y' :: ' ' :: _ => some (s.drop 9).skipSpaces
  | _ => none

/-- The key of an entry that starts here, and what is behind its colon. The key has to end on the
line it begins on. -/
def entryKey? (s : Remainder) : Option (Leaf × Remainder) :=
  let start := (afterTag? s).getD s
  let afterColon := fun (key : Leaf) (t : Remainder) =>
    match t.rest with
    | ':' :: next =>
      if startsBlank next && t.line == s.line then
        some (if (afterTag? s).isSome then key.asBinary else key, t.drop 1)
      else none
    | _ => none
  if start.rest.head?.any isQuote then do
    let (text, t) ← quotedScalar start
    afterColon (.quoted text) t.skipSpaces
  else if startsPlain false start.rest then
    let (run, rest) := plainRun false false start.rest
    afterColon (.plain (trimEnd run)) ⟨rest, start.line, start.column + run.length⟩
  else afterColon (.plain []) start

mutual

def flowNode (flow : Bool) (indent : Nat) : Nat → Remainder → Option (DocNode × Remainder)
  | 0, _ => none
  | fuel + 1, s =>
    match s.rest with
    | '[' :: _ => flowItems fuel [] (s.drop 1).skip
    | '\x7b' :: _ => flowEntries fuel [] (s.drop 1).skip
    | '!' :: _ =>
      match afterTag? s >>= flowNode flow indent fuel with
      | some (.leaf l, t) => some (.leaf l.asBinary, t)
      | _ => none
    | cs =>
      if cs.head?.any isQuote then
        (quotedScalar s).map fun (text, t) => (.leaf (.quoted text), t)
      else if startsPlain flow cs then
        let (text, t) := plainLines flow indent (cs.length + 1) s
        some (.leaf (.plain text), t)
      else none

def flowValue : Nat → Remainder → Option (DocNode × Remainder)
  | 0, _ => none
  | fuel + 1, s =>
    if s.rest.head?.any fun c => [',', ']', '\x7d'].contains c then some (.leaf (.plain []), s)
    else flowNode true 0 fuel s

/-- A list in square brackets, from an item on. A single entry counts as a mapping. -/
def flowItems : Nat → List DocNode → Remainder → Option (DocNode × Remainder)
  | 0, _, _ => none
  | fuel + 1, items, s =>
    match s.rest with
    | ']' :: _ => some (.list items.reverse, s.drop 1)
    | _ => do
      let (item, t) ← flowNode true 0 fuel s
      let t := t.skip
      let (item, t) ← match t.rest, item with
        | ':' :: _, .leaf key => do
          let (v, t) ← flowValue fuel (t.drop 1).skip
          some (.mapping [(key, v)], t.skip)
        | ':' :: _, _ => none
        | _, item => some (item, t)
      match t.rest with
      | ',' :: _ => flowItems fuel (item :: items) (t.drop 1).skip
      | ']' :: _ => some (.list (item :: items).reverse, t.drop 1)
      | _ => none

def flowEntries : Nat → List (Leaf × DocNode) → Remainder → Option (DocNode × Remainder)
  | 0, _, _ => none
  | fuel + 1, entries, s =>
    match s.rest with
    | '\x7d' :: _ => some (.mapping entries.reverse, s.drop 1)
    | _ => do
      let (key, t) ← match s.rest with
        | ':' :: _ => some (.leaf (.plain []), s)
        | _ => flowNode true 0 fuel s
      let t := t.skip
      let (v, t) ← match t.rest with
        | ':' :: _ => flowValue fuel (t.drop 1).skip
        | _ => some (.leaf (.plain []), t)
      let t := t.skip
      match key, t.rest with
      | .leaf key, ',' :: _ => flowEntries fuel ((key, v) :: entries) (t.drop 1).skip
      | .leaf key, '\x7d' :: _ => some (.mapping ((key, v) :: entries).reverse, t.drop 1)
      | _, _ => none

end

def inlineNode (indent fuel : Nat) (s : Remainder) : Option (DocNode × Remainder) := do
  let (v, t) ← flowNode false indent fuel s
  let next := t.skip
  if next.rest.isEmpty || t.line < next.line then some (v, next) else none

mutual

/-- A node on a line of its own, or behind the dash of an item; all of it stands at the column
`indent` or further in. -/
def blockNode (indent : Nat) : Nat → Remainder → Option (DocNode × Remainder)
  | 0, _ => none
  | fuel + 1, s =>
    if s.startsItem then blockItems s.column fuel [] s
    else if (entryKey? s).isSome then blockEntries s.column fuel [] s
    else inlineNode indent fuel s

def blockEntries (column : Nat) :
    Nat → List (Leaf × DocNode) → Remainder → Option (DocNode × Remainder)
  | 0, _, _ => none
  | fuel + 1, entries, s => do
    let (key, t) ← entryKey? s
    let (v, t) ← entryValue column fuel t
    let entries := (key, v) :: entries
    if t.ended || t.column < column then some (.mapping entries.reverse, t)
    else if t.column = column then blockEntries column fuel entries t
    else none

/-- What an entry holds: the rest of its line, or else the lines below as far as they stand further
in. A list may also begin right below its key. -/
def entryValue (column : Nat) : Nat → Remainder → Option (DocNode × Remainder)
  | 0, _ => none
  | fuel + 1, s =>
    let t := s.skip
    if t.ended then some (.leaf (.plain []), t)
    else if t.line = s.line then inlineNode (column + 1) fuel t
    else if column < t.column then blockNode (column + 1) fuel t
    else if t.column = column && t.startsItem then blockItems column fuel [] t
    else some (.leaf (.plain []), t)

def blockItems (column : Nat) : Nat → List DocNode → Remainder → Option (DocNode × Remainder)
  | 0, _, _ => none
  | fuel + 1, items, s => do
    let t := (s.drop 1).skip
    let (v, t) ←
      if !t.ended && column < t.column then blockNode (column + 1) fuel t
      else some (.leaf (.plain []), t)
    if t.ended || t.column < column then some (.list (v :: items).reverse, t)
    else if t.column = column then
      if t.startsItem then blockItems column fuel (v :: items) t
      else some (.list (v :: items).reverse, t)
    else none

end

def joinBreaks : List Char → List Char
  | '\r' :: cs =>
    match cs with
    | '\n' :: ds => '\n' :: joinBreaks ds
    | ds => '\n' :: joinBreaks ds
  | c :: cs =>
    (if c == '\u0085' || c == '\u2028' || c == '\u2029' then '\n' else c) :: joinBreaks cs
  | [] => []

def isAllowed (c : Char) : Bool :=
  let n := c.toNat
  n == 9 || n == 10 || n == 13 || (0x20 ≤ n && n ≤ 0x7E) || n == 0x85 ||
    (0xA0 ≤ n && n ≤ 0xFFFD) || 0x10000 ≤ n

def root (fuel : Nat) (s : Remainder) : Option (DocNode × Remainder) :=
  if s.marks '-' then
    let t := (s.drop 3).skip
    if t.ended then some (.leaf (.plain []), t)
    else if t.line = s.line then inlineNode 0 fuel t
    else blockNode 0 fuel t
  else if s.rest.isEmpty then some (.leaf (.plain []), s)
  else if s.marks '.' then none
  else blockNode 0 fuel s

/-- Nothing but an end mark may follow the only document of a text. -/
def finished (s : Remainder) : Bool :=
  s.rest.isEmpty || (s.marks '.' && (s.drop 3).skip.rest.isEmpty)

def node? (text : String) : Option DocNode :=
  let cs := text.toList
  if cs.all isAllowed then
    let cs := joinBreaks cs
    let cs := if cs.head? == some '\ufeff' then cs.drop 1 else cs
    match root (4 * cs.length + 8) (Remainder.skip ⟨cs, 0, 0⟩) with
    | some (v, s) => if finished s then some v else none
    | none => none
  else none

end Reckon.Plain
