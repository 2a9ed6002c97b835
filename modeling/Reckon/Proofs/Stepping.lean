import Mathlib.Logic.Function.Iterate
import Reckon.Proofs.Pieces
import Reckon.Proofs.Shifting

/-! Reading on past faults. Whatever a reading gives, the next one goes on from where the cursor is
then, and nothing else counts: it is what a cursor would read that begins there. A numeral that
names no number is passed over like one that does; but a character that no token begins with is
never passed, so that the readings come to it, or to the end of the text, and stay there. -/
namespace Reckon
open Text Numeral

namespace Cursor

def onward (k : Cursor) : Cursor := k.next.2

variable {k : Cursor} {cs : List Char} {first : Nat}

theorem steps_eq_map (count : Nat) (k : Cursor) :
    k.steps count = (List.range count).map fun i =>
      ((onward^[i] k).next.1, (onward^[i + 1] k).position) := by
  induction count generalizing k with
  | zero => rfl
  | succ count ih =>
    rw [steps, ih, List.range_succ_eq_map, List.map_cons, List.map_map]
    rfl

/-! One reading, from any place in a text. -/

/-- What can be read from a place in a text, and the place behind it: a piece of the text, the end,
a numeral with too many points, or a character that no token begins with. In front of all of these
there are blanks at most. -/
inductive Reads (cs : List Char) (first : Nat) : Except Fault (Option Lexeme) → Nat → Prop where
  | token {p : Piece} :
      first ≤ p.start → BlankBetween cs first p.start → p.LiesIn cs →
        Reads cs first (.ok (some p.lexeme)) p.stop
  | ended : BlankBetween cs first cs.length → Reads cs first (.ok none) cs.length
  | badNumeral {run : List Char} {place : Nat} :
      first ≤ place → BlankBetween cs first place → run <+: cs.drop place → NumeralRun run →
        2 ≤ run.count '.' → (∀ c ∈ (cs.drop (place + run.length)).head?, isNumeralChar c = false) →
          Reads cs first (.error (.badNumeral (String.ofList run) place)) (place + run.length)
  | stray {c : Char} {place : Nat} :
      first ≤ place → BlankBetween cs first place → cs[place]? = some c → c ∉ symbols →
        isBlank c = false → isDigit c = false → isNameChar c = false →
          Reads cs first (.error (.strayCharacter c place)) place

theorem of_head_badNumeral {run rest : List Char} (h : head cs = .badNumeral run rest) :
    cs = run ++ rest ∧ NumeralRun run ∧ 2 ≤ run.count '.' ∧
      ∀ c ∈ rest.head?, isNumeralChar c = false := by
  cases head_eq_iff.1 h with
  | @badNumeral c cs hc hnone =>
    have hrun : NumeralRun (c :: cs.takeWhile isNumeralChar) :=
      .of_cons hc fun _ => List.mem_takeWhile_imp
    refine ⟨?_, hrun, hrun.readRun?_eq_none_iff.1 hnone, head?_dropWhile_eq_false _ cs⟩
    rw [List.cons_append, List.takeWhile_append_dropWhile]

theorem of_head_stray {c : Char} (h : head cs = .stray c) :
    ∃ rest, cs = c :: rest ∧ c ∉ symbols ∧ isDigit c = false ∧ isNameChar c = false := by
  cases head_eq_iff.1 h with
  | @stray c cs hdigit hname hnone =>
    refine ⟨cs, rfl, fun hsymbol => ?_, hdigit, hname⟩
    obtain ⟨t, ht⟩ := mem_symbols_iff.1 hsymbol
    cases hnone.symm.trans ht

theorem drop_past {run rest : List Char} {place : Nat} (hplace : place ≤ cs.length)
    (h : cs.drop place = run ++ rest) :
    cs.drop (place + run.length) = rest ∧ place + run.length ≤ cs.length := by
  have hlength : run.length ≤ (cs.drop place).length := by
    rw [h, List.length_append]
    exact Nat.le_add_right _ _
  rw [List.length_drop] at hlength
  exact ⟨by rw [← List.drop_drop, h, List.drop_left], by omega⟩

theorem exists_skipBlanks_inside (hfirst : first ≤ cs.length) :
    ∃ place, first ≤ place ∧ place ≤ cs.length ∧ BlankBetween cs first place ∧
      (inside cs first).skipBlanks = inside cs place ∧
      ∀ c ∈ (cs.drop place).head?, isBlank c = false := by
  have hsplit : (cs.drop first).takeWhile isBlank ++ (cs.drop first).dropWhile isBlank =
      cs.drop first := List.takeWhile_append_dropWhile
  have hhead := head?_dropWhile_eq_false isBlank (cs.drop first)
  generalize hbs : (cs.drop first).takeWhile isBlank = bs at hsplit
  generalize hrest : (cs.drop first).dropWhile isBlank = rest at hsplit hhead
  obtain ⟨hdrop, hpast⟩ := drop_past hfirst hsplit.symm
  refine ⟨first + bs.length, Nat.le_add_right _ _, hpast, ?_, ?_, hdrop ▸ hhead⟩
  · rw [blankBetween_iff, Nat.add_sub_cancel_left, ← hsplit, List.take_left, ← hbs]
    exact fun _ => List.mem_takeWhile_imp
  · simp only [skipBlanks, inside, hdrop, hbs, hrest]

theorem reads_next (hfirst : first ≤ cs.length) :
    ∃ past, (inside cs first).onward = inside cs past ∧ past ≤ cs.length ∧
      Reads cs first (inside cs first).next.1 past := by
  obtain ⟨place, hle, hplace, hblanks, hskip, hnonblank⟩ := exists_skipBlanks_inside hfirst
  have hat : (inside cs place).rest = cs.drop place := rfl
  unfold onward next
  simp only [hskip, hat]
  cases hhead : head (cs.drop place) with
  | ended =>
    have hend : cs.drop place = [] := eq_nil_of_head hhead
    obtain rfl : place = cs.length := Nat.le_antisymm hplace (List.drop_eq_nil_iff.1 hend)
    exact ⟨_, rfl, le_rfl, .ended hblanks⟩
  | token t run rest =>
    obtain ⟨hcut, hrun, hends⟩ := head_eq_token_iff.1 hhead
    obtain ⟨hdrop, hpast⟩ := drop_past hplace hcut
    have hlies : Piece.LiesIn cs ⟨⟨t, place⟩, run⟩ :=
      ⟨⟨rest, hcut.symm⟩, .of_head hhead, hdrop.symm ▸ hends⟩
    exact ⟨place + run.length, congrArg (Cursor.mk · _) hdrop.symm, hpast,
      .token hle hblanks hlies⟩
  | badNumeral run rest =>
    obtain ⟨hcut, hrun, hpoints, hends⟩ := of_head_badNumeral hhead
    obtain ⟨hdrop, hpast⟩ := drop_past hplace hcut
    exact ⟨place + run.length, congrArg (Cursor.mk · _) hdrop.symm, hpast,
      .badNumeral hle hblanks ⟨rest, hcut.symm⟩ hrun hpoints (hdrop.symm ▸ hends)⟩
  | stray c =>
    obtain ⟨rest, hcut, hsymbol, hdigit, hname⟩ := of_head_stray hhead
    have hat : cs[place]? = some c := by
      rw [← List.head?_drop, hcut, List.head?_cons]
    exact ⟨place, rfl, hplace,
      .stray hle hblanks hat hsymbol (hnonblank c (by simp [hcut])) hdigit hname⟩

/-- What passes over nothing, so that the next reading is the same. -/
inductive Final : Except Fault (Option Lexeme) → Prop where
  | ended : Final (.ok none)
  | stray (c : Char) (place : Nat) : Final (.error (.strayCharacter c place))

theorem Reads.first_le {outcome : Except Fault (Option Lexeme)} {past : Nat}
    (h : Reads cs first outcome past) (hfirst : first ≤ cs.length) : first ≤ past := by
  cases h with
  | token hle _ hlies => exact Nat.le_of_lt (Nat.lt_of_le_of_lt hle hlies.start_lt_stop)
  | ended => exact hfirst
  | badNumeral hle => exact Nat.le_trans hle (Nat.le_add_right _ _)
  | stray hle => exact hle

theorem Reads.first_lt {outcome : Except Fault (Option Lexeme)} {past : Nat}
    (h : Reads cs first outcome past) (hfinal : ¬ Final outcome) : first < past := by
  cases h with
  | token hle _ hlies => exact Nat.lt_of_le_of_lt hle hlies.start_lt_stop
  | ended => exact absurd .ended hfinal
  | @badNumeral run place hle _ _ _ hpoints =>
    have hlength : run.count '.' ≤ run.length := List.count_le_length
    omega
  | stray => exact absurd (.stray _ _) hfinal

/-! The run of all readings. -/

theorem skipBlanks_skipBlanks (k : Cursor) : k.skipBlanks.skipBlanks = k.skipBlanks := by
  obtain ⟨htake, hdrop⟩ := @span_append_of_stop isBlank [] (k.rest.dropWhile isBlank)
    (.inr (head?_dropWhile_eq_false isBlank k.rest))
  rw [List.nil_append] at htake hdrop
  simp only [skipBlanks, htake, hdrop, List.takeWhile_nil, List.dropWhile_nil, List.nil_append,
    List.length_nil, Nat.add_zero]

theorem next_skipBlanks (k : Cursor) : k.skipBlanks.next = k.next := by
  rw [next, next, skipBlanks_skipBlanks]

theorem onward_of_final (h : Final k.next.1) : k.onward = k.skipBlanks := by
  unfold onward next at *
  cases hhead : head k.skipBlanks.rest with
  | ended | stray => simp only [hhead]
  | token | badNumeral =>
    simp only [hhead] at h
    cases h

theorem next_onward_of_final (h : Final k.next.1) : k.onward.next = k.next := by
  rw [onward_of_final h, next_skipBlanks]

theorem next_iterate_of_final (h : Final k.next.1) (count : Nat) :
    (onward^[count] k).next = k.next := by
  induction count generalizing k with
  | zero => rfl
  | succ count ih =>
    have hnext := next_onward_of_final h
    rw [Function.iterate_succ_apply, ih (hnext ▸ h), hnext]

theorem exists_iterate_inside (hfirst : first ≤ cs.length) (count : Nat) :
    ∃ place ≤ cs.length, onward^[count] (inside cs first) = inside cs place := by
  induction count generalizing first with
  | zero => exact ⟨first, hfirst, rfl⟩
  | succ count ih =>
    obtain ⟨past, honward, hpast, -⟩ := reads_next hfirst
    rw [Function.iterate_succ_apply, honward]
    exact ih hpast

/-- At the latest, all of the text has been passed. -/
theorem exists_final (hfirst : first ≤ cs.length) :
    ∃ count ≤ cs.length - first, Final (onward^[count] (inside cs first)).next.1 := by
  induction hn : cs.length - first using Nat.strong_induction_on generalizing first with
  | h n ih =>
    by_cases hfinal : Final (inside cs first).next.1
    · exact ⟨0, Nat.zero_le _, hfinal⟩
    · obtain ⟨past, honward, hpast, hreads⟩ := reads_next hfirst
      have hlt := hreads.first_lt hfinal
      obtain ⟨count, hcount, hlast⟩ := ih (cs.length - past) (by omega) hpast rfl
      refine ⟨count + 1, by omega, ?_⟩
      rwa [Function.iterate_succ_apply, honward]

theorem next_inside (cs : List Char) (first : Nat) :
    (inside cs first).next =
      let fresh := (start (String.ofList (cs.drop first))).next
      ((fresh.1.map (Option.map (Lexeme.shift first))).mapError (Fault.shift first),
        fresh.2.shift first) := by
  have hshift : inside cs first = (start (String.ofList (cs.drop first))).shift first := by
    simp [inside, start, shift]
  rw [hshift, next_shift]

def after (source : String) (count : Nat) : Cursor := onward^[count] (start source)

theorem after_succ (source : String) (count : Nat) :
    after source (count + 1) = (after source count).next.2 :=
  Function.iterate_succ_apply' onward count _

theorem next_after_of_final {source : String} {i j : Nat} (h : Final (after source i).next.1)
    (hij : i ≤ j) : (after source j).next = (after source i).next := by
  obtain ⟨count, rfl⟩ := Nat.exists_eq_add_of_le' hij
  rw [after, Function.iterate_add_apply]
  exact next_iterate_of_final h count

end Cursor

open Cursor

/-- Each reading of a text goes on from the place where the one before has left the cursor, which
never goes back and never leaves the text; it gives what a reading of the rest of the text would
give, with the places counted on. A token or a bad numeral is passed over, up to its end. From a
stray character and from the end the cursor does not go on: all further readings give the same, and
sooner or later it comes to that. -/
theorem steps_past_faults (source : String) :
    (∀ count, (start source).steps count = (List.range count).map fun i =>
      ((after source i).next.1, (after source (i + 1)).position)) ∧
    (after source 0).position = 0 ∧
    (∀ i,
      let first := (after source i).position
      let past := (after source (i + 1)).position
      let outcome := (after source i).next.1
      let fresh := (start (String.ofList (source.toList.drop first))).next
      first ≤ past ∧ past ≤ source.length ∧
        outcome = (fresh.1.map (Option.map (Lexeme.shift first))).mapError (Fault.shift first) ∧
        past = fresh.2.position + first ∧
        Reads source.toList first outcome past ∧ (¬ Final outcome → first < past) ∧
        (Final outcome → ∀ j, i ≤ j →
          (after source j).next.1 = outcome ∧ (after source (j + 1)).position = past)) ∧
    ∃ i ≤ source.length, Final (after source i).next.1 := by
  refine ⟨fun count => steps_eq_map count _, rfl, fun i => ?_, exists_final (Nat.zero_le _)⟩
  intro first past outcome fresh
  obtain ⟨place, hplace, hat⟩ : ∃ place ≤ source.toList.length,
      after source i = inside source.toList place := exists_iterate_inside (Nat.zero_le _) i
  obtain ⟨behind, honward, hbehind, hreads⟩ := reads_next hplace
  obtain rfl : first = place := congrArg Cursor.position hat
  rw [← hat] at honward hreads
  have hsucc : after source (i + 1) = (after source i).onward := after_succ source i
  obtain rfl : past = behind := congrArg Cursor.position (hsucc.trans honward)
  have hfresh : (after source i).next = _ := hat ▸ next_inside source.toList first
  refine ⟨hreads.first_le hplace, hbehind, congrArg Prod.fst hfresh, ?_, hreads, hreads.first_lt,
    fun hfinal j hij => ?_⟩
  · exact (congrArg Cursor.position hsucc).trans (congrArg (·.2.position) hfresh)
  · have hnext := next_after_of_final hfinal hij
    refine ⟨congrArg Prod.fst hnext, ?_⟩
    rw [after_succ, hnext, ← after_succ]

set_option maxRecDepth 8000 in
/-- The token behind a bad numeral is read, and nothing behind a stray character is. -/
theorem steps_past_bad_numeral_only :
    (start "1.2.3 x #y").steps 4 =
      [(.error (.badNumeral "1.2.3" 0), 5), (.ok (some ⟨.atom (.unknown "x"), 6⟩), 7),
        (.error (.strayCharacter '#' 8), 8), (.error (.strayCharacter '#' 8), 8)] ∧
    Final (after "1.2.3 x #y" 2).next.1 ∧
    ∀ j, 2 ≤ j → (after "1.2.3 x #y" j).next.1 = .error (.strayCharacter '#' 8) ∧
      (after "1.2.3 x #y" (j + 1)).position = 8 := by
  have hsteps : (start "1.2.3 x #y").steps 4 =
      [(.error (.badNumeral "1.2.3" 0), 5), (.ok (some ⟨.atom (.unknown "x"), 6⟩), 7),
        (.error (.strayCharacter '#' 8), 8), (.error (.strayCharacter '#' 8), 8)] := rfl
  obtain ⟨hrun, -, hreading, -⟩ := steps_past_faults "1.2.3 x #y"
  obtain ⟨-, -, -, -, -, -, hlast⟩ := hreading 2
  have hlist := (hrun 4).symm.trans hsteps
  obtain ⟨houtcome, hplace⟩ : (after "1.2.3 x #y" 2).next.1 = .error (.strayCharacter '#' 8) ∧
      (after "1.2.3 x #y" 3).position = 8 := by
    have h2 := congrArg (·[2]?) hlist
    simpa using h2
  have hfinal : Final (after "1.2.3 x #y" 2).next.1 := houtcome ▸ .stray '#' 8
  refine ⟨hsteps, hfinal, fun j hj => ?_⟩
  obtain ⟨hsame, hstays⟩ := hlast hfinal j hj
  exact ⟨hsame.trans houtcome, hstays.trans hplace⟩

end Reckon
