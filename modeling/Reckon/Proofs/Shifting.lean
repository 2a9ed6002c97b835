import Reckon.Proofs.Reading

/-! The same text, further on. Where a text begins makes no difference to what is read of it: only
the places that are named move along, those of its tokens and those that its faults report. -/
namespace Reckon
open Outcome

def Fault.shift (n : Nat) : Fault → Fault
  | strayCharacter c position => strayCharacter c (position + n)
  | badNumeral text position => badNumeral text (position + n)
  | strayClosing b position => strayClosing b (position + n)
  | fault => fault

def Lexeme.shift (n : Nat) (l : Lexeme) : Lexeme := ⟨l.token, l.position + n⟩

@[simp] theorem Lexeme.token_shift (n : Nat) (l : Lexeme) : (l.shift n).token = l.token := rfl

namespace Cursor

def shift (n : Nat) (k : Cursor) : Cursor := ⟨k.rest, k.position + n⟩

variable {k k' : Cursor} {n : Nat}

theorem skipBlanks_shift (k : Cursor) (n : Nat) :
    (k.shift n).skipBlanks = k.skipBlanks.shift n := by
  simp only [skipBlanks, shift, Nat.add_right_comm]

theorem next_shift (k : Cursor) (n : Nat) :
    (k.shift n).next =
      ((k.next.1.map (Option.map (Lexeme.shift n))).mapError (Fault.shift n),
        k.next.2.shift n) := by
  have hrest : (k.skipBlanks.shift n).rest = k.skipBlanks.rest := rfl
  have hstop : ∀ run : List Char,
      (k.skipBlanks.shift n).position + run.length = k.skipBlanks.position + run.length + n :=
    fun run => Nat.add_right_comm _ _ _
  simp only [next, skipBlanks_shift, hrest]
  cases head k.skipBlanks.rest with
  | ended => rfl
  | token t run rest => simp only [hstop]; rfl
  | badNumeral run rest => simp only [hstop]; rfl
  | stray c => rfl

theorem scan_congr (h : k.next = k'.next) : k.scan = k'.scan := by
  obtain ⟨outcome, k'', hk⟩ : ∃ outcome k'', k.next = (outcome, k'') := ⟨_, _, rfl⟩
  have hk' := h.symm.trans hk
  match outcome with
  | .ok (some l) => rw [scan_of_token hk, scan_of_token hk']
  | .ok none => rw [scan_of_end hk, scan_of_end hk']
  | .error e => rw [scan_of_fault hk, scan_of_fault hk']

/-- What moves each reading moves them all. -/
theorem scan_map {move : Cursor → Cursor} {lexeme : Lexeme → Lexeme} {fault : Fault → Fault}
    (h : ∀ k, (move k).next =
      ((k.next.1.map (Option.map lexeme)).mapError fault, move k.next.2)) (k : Cursor) :
    (move k).scan = (k.scan.1.map lexeme, k.scan.2.map fault) := by
  induction k using Cursor.scan.induct with
  | case1 k l k' hnext _ ls f hscan ih =>
    have hnext' := h k
    rw [hnext] at hnext'
    rw [scan_of_token hnext, scan_of_token hnext', ih]
    rfl
  | case2 k k' hnext =>
    have hnext' := h k
    rw [hnext] at hnext'
    rw [scan_of_end hnext, scan_of_end hnext']
    rfl
  | case3 k e k' hnext =>
    have hnext' := h k
    rw [hnext] at hnext'
    rw [scan_of_fault hnext, scan_of_fault hnext']
    rfl

theorem scan_shift (k : Cursor) (n : Nat) :
    (k.shift n).scan = (k.scan.1.map (Lexeme.shift n), k.scan.2.map (Fault.shift n)) :=
  scan_map (fun k => next_shift k n) k

end Cursor
end Reckon
