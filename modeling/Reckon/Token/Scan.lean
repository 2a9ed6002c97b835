import Reckon.Fault
import Reckon.Numeral.Reading
import Reckon.Text.Alphanumeric

/-! From characters to tokens. A cursor stands somewhere in a text and reads one token at a time. A
numeral or a name is as long as it can be; blanks only part what would run together. -/
namespace Reckon
open Text Numeral

inductive Head where
  | ended
  | token (t : Token) (run rest : List Char)
  | badNumeral (run rest : List Char)
  | stray (c : Char)

def isNumeralChar (c : Char) : Bool := isDigit c || c == '.'

def numeralHead (run rest : List Char) : Head :=
  match readRun? run with
  | some x => .token (.atom (.number x)) run rest
  | none => .badNumeral run rest

def symbolHead (c : Char) (rest : List Char) : Head :=
  match Token.ofSymbol? c with
  | some t => .token t [c] rest
  | none => .stray c

def head : List Char → Head
  | [] => .ended
  | c :: cs =>
    if isDigit c then
      numeralHead (c :: cs.takeWhile isNumeralChar) (cs.dropWhile isNumeralChar)
    else if isNameChar c then
      let run := c :: cs.takeWhile isNameChar
      .token (.atom (.ofName (String.ofList run))) run (cs.dropWhile isNameChar)
    else symbolHead c cs

inductive Begins : List Char → Head → Prop where
  | ended : Begins [] .ended
  | numeral {c : Char} {cs : List Char} {x : Float} :
      isDigit c = true → readRun? (c :: cs.takeWhile isNumeralChar) = some x →
        Begins (c :: cs) (.token (.atom (.number x)) (c :: cs.takeWhile isNumeralChar)
          (cs.dropWhile isNumeralChar))
  | badNumeral {c : Char} {cs : List Char} :
      isDigit c = true → readRun? (c :: cs.takeWhile isNumeralChar) = none →
        Begins (c :: cs) (.badNumeral (c :: cs.takeWhile isNumeralChar)
          (cs.dropWhile isNumeralChar))
  | name {c : Char} {cs : List Char} :
      isNameChar c = true →
        Begins (c :: cs) (.token (.atom (.ofName (String.ofList (c :: cs.takeWhile isNameChar))))
          (c :: cs.takeWhile isNameChar) (cs.dropWhile isNameChar))
  | symbol {c : Char} {cs : List Char} {t : Token} :
      isDigit c = false → isNameChar c = false → Token.ofSymbol? c = some t →
        Begins (c :: cs) (.token t [c] cs)
  | stray {c : Char} {cs : List Char} :
      isDigit c = false → isNameChar c = false → Token.ofSymbol? c = none →
        Begins (c :: cs) (.stray c)

theorem Begins.head_eq {cs : List Char} {h : Head} (hb : Begins cs h) : head cs = h := by
  cases hb with
  | ended => rfl
  | numeral hc hx => simp [head, numeralHead, hc, hx]
  | badNumeral hc hx => simp [head, numeralHead, hc, hx]
  | name hc => simp [head, isDigit_eq_false_of_isNameChar hc, hc]
  | symbol hdigit hname ht => simp [head, symbolHead, hdigit, hname, ht]
  | stray hdigit hname ht => simp [head, symbolHead, hdigit, hname, ht]

theorem begins_head (cs : List Char) : Begins cs (head cs) := by
  cases cs with
  | nil => exact .ended
  | cons c cs =>
    simp only [head, numeralHead, symbolHead]
    split
    · next hdigit =>
      split
      · next hx => exact .numeral hdigit hx
      · next hx => exact .badNumeral hdigit hx
    · next hdigit =>
      split
      · next hname => exact .name hname
      · next hname =>
        have hdigit' := Bool.eq_false_iff.2 hdigit
        have hname' := Bool.eq_false_iff.2 hname
        split
        · next ht => exact .symbol hdigit' hname' ht
        · next ht => exact .stray hdigit' hname' ht

theorem head_eq_iff {cs : List Char} {h : Head} : head cs = h ↔ Begins cs h := by
  constructor
  · rintro rfl
    exact begins_head cs
  · exact Begins.head_eq

theorem length_dropWhile_le (p : Char → Bool) (cs : List Char) :
    (cs.dropWhile p).length ≤ cs.length :=
  (List.dropWhile_suffix p).length_le

theorem head_token_shorter {cs run rest : List Char} {t : Token} (h : head cs = .token t run rest) :
    rest.length < cs.length := by
  cases head_eq_iff.1 h with
  | numeral | name => exact Nat.lt_succ_of_le (length_dropWhile_le _ _)
  | symbol => exact Nat.lt_succ_self _

structure Cursor where
  rest : List Char
  position : Nat

namespace Cursor

def start (s : String) : Cursor := ⟨s.toList, 0⟩

def skipBlanks (k : Cursor) : Cursor :=
  ⟨k.rest.dropWhile isBlank, k.position + (k.rest.takeWhile isBlank).length⟩

/-- The next token, or none at the end, and the cursor behind it. A numeral that names no number is
passed over all the same; before a stray character the cursor stays. -/
def next (k : Cursor) : Except Fault (Option Lexeme) × Cursor :=
  let k := k.skipBlanks
  match head k.rest with
  | .ended => (.ok none, k)
  | .token t run rest => (.ok (some ⟨t, k.position⟩), ⟨rest, k.position + run.length⟩)
  | .badNumeral run rest =>
    (.error (.badNumeral (String.ofList run) k.position), ⟨rest, k.position + run.length⟩)
  | .stray c => (.error (.strayCharacter c k.position), k)

theorem next_shorter {k k' : Cursor} {l : Lexeme} (h : k.next = (.ok (some l), k')) :
    k'.rest.length < k.rest.length := by
  unfold next at h
  simp only at h
  split at h <;> cases h
  next hd => exact Nat.lt_of_lt_of_le (head_token_shorter hd) (length_dropWhile_le _ _)

def scan (k : Cursor) : List Lexeme × Option Fault :=
  match h : k.next with
  | (.ok (some l), k') =>
    have := next_shorter h
    let (ls, fault) := k'.scan
    (l :: ls, fault)
  | (.ok none, _) => ([], none)
  | (.error f, _) => ([], some f)
termination_by k.rest.length

section
variable {k k' : Cursor}

theorem scan_of_token {l : Lexeme} (h : k.next = (.ok (some l), k')) :
    k.scan = (l :: k'.scan.1, k'.scan.2) := by
  rw [scan]
  split
  · next h' =>
    cases h.symm.trans h'
    rfl
  · next h' => cases h.symm.trans h'
  · next h' => cases h.symm.trans h'

theorem scan_of_end (h : k.next = (.ok none, k')) : k.scan = ([], none) := by
  rw [scan]
  split
  · next h' => cases h.symm.trans h'
  · rfl
  · next h' => cases h.symm.trans h'

theorem scan_of_fault {f : Fault} (h : k.next = (.error f, k')) : k.scan = ([], some f) := by
  rw [scan]
  split
  · next h' => cases h.symm.trans h'
  · next h' => cases h.symm.trans h'
  · next h' =>
    cases h.symm.trans h'
    rfl

end

/-- That many readings in a row, whatever each of them gives, and where the cursor is after each. -/
def steps : Nat → Cursor → List (Except Fault (Option Lexeme) × Nat)
  | 0, _ => []
  | count + 1, k => (k.next.1, k.next.2.position) :: steps count k.next.2

end Cursor

def tokenize (s : String) : Except Fault (List Lexeme) :=
  match (Cursor.start s).scan with
  | (ls, none) => .ok ls
  | (_, some f) => .error f

end Reckon
