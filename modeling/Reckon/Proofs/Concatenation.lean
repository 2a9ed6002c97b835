import Reckon.Proofs.Pieces
import Reckon.Proofs.Shifting

/-! Texts one behind the other. Where no numeral and no name runs on across the seam, the tokens of
the whole are those of the first text and those of the second, further on. What has been read in
front is only more of the row at the bottom, so behind a text that is read for itself another one is
read as it would be alone. -/
namespace Reckon
open Text Outcome

/-- The last character of the text belongs to a numeral. -/
def EndsInNumeral (cs : List Char) : Prop :=
  ∃ (ps : List Piece) (p : Piece) (x : Float), Segmentation cs 0 ps ∧ p ∈ ps ∧
    p.token = .atom (.number x) ∧ p.stop = cs.length

/-- A numeral or a name of the first text would go on in the second. -/
def RunsOn (before after : List Char) : Prop :=
  (EndsInNumeral before ∧ ∃ c ∈ after.head?, isDigit c = true ∨ c = '.') ∨
    ∃ c ∈ before.getLast?, ∃ d ∈ after.head?, isNameChar c = true ∧ isNameChar d = true

/-- The same in terms of characters alone: two next to each other that are of one run. -/
def Sealed (before after : List Char) : Prop :=
  ∀ c ∈ before.getLast?, ∀ d ∈ after.head?,
    ¬ (isNumeralChar c = true ∧ isNumeralChar d = true) ∧
      ¬ (isNameChar c = true ∧ isNameChar d = true)

theorem endsInNumeral_of_getLast? {cs : List Char} {ps : List Piece} (h : Segmentation cs 0 ps)
    {c : Char} (hc : c ∈ cs.getLast?) (hnum : isNumeralChar c = true) : EndsInNumeral cs := by
  have hlast : cs[cs.length - 1]? = some c := by rwa [← List.getLast?_eq_getElem?]
  obtain ⟨p, hp, hstart, hstop⟩ :=
    (h.covers _ c (Nat.zero_le _) hlast).1 (isBlank_eq_false (.inl hnum))
  have hlies := h.liesIn p hp
  have hle := hlies.stop_le
  have hmem := hlies.mem_run hstart hstop hlast
  obtain ⟨-, x, hx, -⟩ := numeralRun_of_mem hlies.spelled.head_eq hmem hnum
  exact ⟨ps, p, x, h, hp, hx, by omega⟩

theorem sealed_of_not_runsOn {cs us : List Char} {ps : List Piece} (h : Segmentation cs 0 ps)
    (hseam : ¬ RunsOn cs us) : Sealed cs us := by
  intro c hc d hd
  constructor
  · rintro ⟨hnum, hnum'⟩
    refine hseam (.inl ⟨endsInNumeral_of_getLast? h hc hnum, d, hd, ?_⟩)
    exact (Bool.or_eq_true_iff.1 hnum').imp_right beq_iff_eq.1
  · rintro ⟨hname, hname'⟩
    exact hseam (.inr ⟨c, hc, d, hd, hname, hname'⟩)

theorem Sealed.of_append {vs cs us : List Char} (h : Sealed (vs ++ cs) us) : Sealed cs us := by
  intro c hc
  refine h c ?_
  rw [List.getLast?_append, hc, Option.some_or]
  rfl

theorem sealed_blanks_right (cs : List Char) {bs : List Char} (h : ∀ c ∈ bs, isBlank c = true) :
    Sealed cs bs := by
  intro c _ d hd
  have hblank := h d (List.mem_of_mem_head? hd)
  rw [isNumeralChar_eq_false_of_isBlank hblank, isNameChar_eq_false_of_isBlank hblank]
  simp

theorem sealed_blanks_left {cs bs : List Char} (us : List Char) (h : ∀ c ∈ bs, isBlank c = true)
    (hne : bs ≠ []) : Sealed (cs ++ bs) us := by
  intro c hc
  rw [List.getLast?_append, List.getLast?_eq_some_getLast hne, Option.some_or] at hc
  have hblank := h c (Option.some.inj hc ▸ List.getLast_mem hne)
  rw [isNumeralChar_eq_false_of_isBlank hblank, isNameChar_eq_false_of_isBlank hblank]
  simp

theorem growsBy_of_ofSymbol? {c : Char} {t : Token} (h : Token.ofSymbol? c = some t) :
    t.growsBy = fun _ => false := by
  unfold Token.ofSymbol? at h
  split at h <;> cases h <;> rfl

theorem Sealed.endsBefore {run us : List Char} {t : Token} (h : Sealed run us)
    (hrun : Spells run t) : t.EndsBefore us := by
  obtain ⟨c, hlast⟩ : ∃ c, c ∈ run.getLast? := ⟨_, List.getLast?_eq_some_getLast hrun.ne_nil⟩
  have hmem : c ∈ run := List.mem_of_getLast? hlast
  intro d hd
  refine Bool.eq_false_iff.2 fun hgrows => ?_
  obtain ⟨hnum, hname⟩ := h c hlast d hd
  cases hrun with
  | numeral hrun hx => exact hnum ⟨hrun.goesOn c hmem, hgrows⟩
  | function f => exact hname ⟨isNameChar_of_mem_name f c hmem, hgrows⟩
  | unknown hne hchars hnone => exact hname ⟨hchars c hmem, hgrows⟩
  | symbol ht =>
    rw [growsBy_of_ofSymbol? ht] at hgrows
    cases hgrows

namespace Cursor

theorem scan_extend {k : Cursor} {ls : List Lexeme} {us : List Char} (h : k.scan = (ls, none))
    (hseam : Sealed k.rest us) :
    (k.extend us).scan =
      (ls ++ (Cursor.mk us (k.position + k.rest.length)).scan.1,
        (Cursor.mk us (k.position + k.rest.length)).scan.2) := by
  induction k using Cursor.scan.induct generalizing ls with
  | case1 k l k' hnext _ ls' fault hscan ih =>
    rw [scan_of_token hnext] at h
    obtain ⟨rfl, hnone⟩ := Prod.ext_iff.1 h
    obtain ⟨bs, run, -, hcs, hrun, -, hl, hk'⟩ := next_eq_token_iff.1 hnext
    have hplace : k'.position + k'.rest.length = k.position + k.rest.length := by
      rw [hk', hl, hcs, List.length_append, List.length_append]
      omega
    rw [hcs] at hseam
    have hrest := hseam.of_append.of_append
    have hstop : k'.rest ≠ [] ∨ l.token.EndsBefore us := by
      by_cases hnil : k'.rest = []
      · rw [hnil, List.append_nil] at hseam
        exact .inr (hseam.of_append.endsBefore (.of_head hrun))
      · exact .inl hnil
    rw [scan_of_token (next_extend hnext hstop), ih (Prod.ext rfl hnone) hrest, hplace]
    rfl
  | case2 k k' hnext =>
    rw [scan_of_end hnext] at h
    cases h
    exact scan_congr (next_blanks_append (blank_of_next_end hnext) us k.position)
  | case3 k e k' hnext =>
    rw [scan_of_fault hnext] at h
    cases h

theorem scan_append {s t : String} {ls : List Lexeme} (h : (start s).scan = (ls, none))
    (hseam : Sealed s.toList t.toList) :
    (start (s ++ t)).scan =
      (ls ++ (start t).scan.1.map (Lexeme.shift s.length),
        (start t).scan.2.map (Fault.shift s.length)) := by
  have hstart : start (s ++ t) = (start s).extend t.toList := by
    rw [start, String.toList_append]
    rfl
  have hplace : Cursor.mk t.toList ((start s).position + (start s).rest.length) =
      (start t).shift s.length := rfl
  rw [hstart, scan_extend h hseam, hplace, scan_shift]

end Cursor

theorem scan_of_tokenize {s : String} {ls : List Lexeme} :
    tokenize s = .ok ls ↔ (Cursor.start s).scan = (ls, none) := tokenize_eq_ok_iff

theorem tokenize_append_of_sealed {s t : String} {ls : List Lexeme} (h : tokenize s = .ok ls)
    (hseam : Sealed s.toList t.toList) :
    tokenize (s ++ t) = ((tokenize t).map fun ms => ls ++ ms.map (Lexeme.shift s.length)).mapError
      (Fault.shift s.length) := by
  unfold tokenize
  rw [Cursor.scan_append (scan_of_tokenize.1 h) hseam]
  obtain ⟨ms, _ | fault⟩ := (Cursor.start t).scan
  · rfl
  · rfl

/-! Frames with more in the row at the bottom. -/

namespace Frames
open Formula
variable {limit : Int} {n : Nat}

/-- The frames with `g` in the row at the bottom already, under all that is there; rows are kept
last item first. -/
def behind (g : Formula) : Formula → List (Bracket × Formula) → Frames
  | row, [] => ⟨row ++ g, []⟩
  | row, (b, r) :: outer => ⟨row, (b, (behind g r outer).row) :: (behind g r outer).outer⟩

theorem behind_atom (g : Formula) (a : Atom) (row : Formula) (outer : List (Bracket × Formula)) :
    behind g (.atom a row) outer =
      ⟨.atom a (behind g row outer).row, (behind g row outer).outer⟩ := by
  cases outer <;> rfl

theorem behind_group (g inner row : Formula) (outer : List (Bracket × Formula)) :
    behind g (.group inner row) outer =
      ⟨.group inner (behind g row outer).row, (behind g row outer).outer⟩ := by
  cases outer <;> rfl

theorem length_outer_behind (g row : Formula) (outer : List (Bracket × Formula)) :
    (behind g row outer).outer.length = outer.length := by
  induction outer generalizing row with
  | nil => rfl
  | cons opened outer ih => exact congrArg (· + 1) (ih opened.2)

theorem push_behind (g : Formula) (s : Frames) (l : Lexeme) :
    push limit (behind g s.row s.outer) (l.shift n) =
      ((push limit s l).map fun s' => behind g s'.row s'.outer).mapError (Fault.shift n) := by
  cases hl : l.token with
  | atom a =>
    rw [push_atom hl, push_atom (l.token_shift n ▸ hl), map_ok, behind_atom]
    rfl
  | opening b =>
    rw [push_opening hl, push_opening (l.token_shift n ▸ hl), length_outer_behind]
    split
    · rfl
    · rfl
  | closing b =>
    obtain ⟨row, _ | ⟨⟨opened, r⟩, outer⟩⟩ := s
    · simp only [push, hl, behind, Lexeme.token_shift]
      rfl
    · rw [push_closing hl, behind, push_closing (l.token_shift n ▸ hl)]
      split
      · rw [map_ok, behind_group]
        rfl
      · rfl

theorem foldlM_push_behind (g : Formula) (s : Frames) (ls : List Lexeme) :
    (ls.map (Lexeme.shift n)).foldlM (push limit) (behind g s.row s.outer) =
      ((ls.foldlM (push limit) s).map fun s' => behind g s'.row s'.outer).mapError
        (Fault.shift n) := by
  induction ls generalizing s with
  | nil => rfl
  | cons l ls ih =>
    rw [List.map_cons, List.foldlM_cons, List.foldlM_cons, push_behind]
    cases push limit s l with
    | error fault => rfl
    | ok s' => exact ih s'

theorem finish_behind (f : Formula) (s : Frames) :
    finish (behind f.reverse s.row s.outer) =
      ((finish s).map (f ++ ·)).mapError (Fault.shift n) := by
  obtain ⟨row, _ | ⟨⟨opened, r⟩, outer⟩⟩ := s
  · have hreverse := reverse_reverseOnto row.reverse f.reverse
    rw [reverseOnto_eq, reverse_reverse, reverse_reverse] at hreverse
    exact congrArg Except.ok hreverse
  · rfl

end Frames

namespace Formula
open Frames

theorem ofScan_append {limit : Int} {f : Formula} {ls : List Lexeme} {n : Nat}
    (hf : f.Written (ls.map (·.token))) (hdepth : f.depth ≤ limit.toNat) (ms : List Lexeme)
    (fault? : Option Fault) :
    ofScan limit (ls ++ ms.map (Lexeme.shift n), fault?.map (Fault.shift n)) =
      ((ofScan limit (ms, fault?)).map (f ++ ·)).mapError (Fault.shift n) := by
  have hfront : ls.foldlM (push limit) empty = .ok (behind f.reverse empty.row empty.outer) :=
    foldlM_push_of_written hf rfl empty (within_top.2 hdepth)
  simp only [ofScan, List.foldlM_append, hfront, ok_bind, foldlM_push_behind]
  cases ms.foldlM (push limit) empty with
  | error e => rfl
  | ok s =>
    cases fault? with
    | none => exact finish_behind f s
    | some e => rfl

end Formula

/-- Two texts are tokenized one behind the other as each of them is on its own, unless a numeral or
a name runs on from the first to the second. With blanks between, they are read like this too: the
items of both in one row, or what is wrong with the second. -/
theorem tokenize_and_read_append :
    (∀ (s t : String) (ls : List Lexeme), tokenize s = .ok ls → ¬ RunsOn s.toList t.toList →
      tokenize (s ++ t) = ((tokenize t).map fun ms => ls ++ ms.map (Lexeme.shift s.length)).mapError
        (Fault.shift s.length)) ∧
    ∀ (limit : Int) (s w t : String) (f : Formula), Formula.read limit s = .ok f → w ≠ "" →
      (∀ c ∈ w.toList, isBlank c = true) →
      Formula.read limit (s ++ w ++ t) =
        ((Formula.read limit t).map (f ++ ·)).mapError (Fault.shift (s ++ w).length) := by
  constructor
  · intro s t ls hls hseam
    obtain ⟨ps, hps, -⟩ := Cursor.scan_inside_iff.1 (tokenize_eq_ok_iff.1 hls)
    exact tokenize_append_of_sealed hls (sealed_of_not_runsOn hps hseam)
  · intro limit s w t f hf hw hblank
    obtain ⟨ls, hls, hwritten, hdepth⟩ := Formula.read_eq_ok.1 hf
    have hblanks : (Cursor.start w).scan = ([], none) :=
      Cursor.scan_of_end (Cursor.next_of_blanks hblank)
    have hfront : (Cursor.start (s ++ w)).scan = (ls, none) := by
      rw [Cursor.scan_append (scan_of_tokenize.1 hls) (sealed_blanks_right _ hblank), hblanks]
      simp
    have hseam : Sealed (s ++ w).toList t.toList := by
      rw [String.toList_append]
      exact sealed_blanks_left _ hblank (by simpa using hw)
    rw [Formula.read, Cursor.scan_append hfront hseam]
    exact Formula.ofScan_append hwritten hdepth _ _

set_option maxRecDepth 8000 in
/-- A numeral may stand right behind a name, and its fault is reported from there; so is that of a
bracket behind a group. -/
theorem tokenize_and_read_faults_behind :
    tokenize "x" = .ok [⟨.atom (.unknown "x"), 0⟩] ∧ ¬ RunsOn "x".toList "1.2.3".toList ∧
      tokenize "x1.2.3" = .error (.badNumeral "1.2.3" 1) ∧
      Formula.read 1 "(x)" = .ok (.group (.atom (.unknown "x") .nil) .nil) ∧ " " ≠ "" ∧
      (∀ c ∈ " ".toList, isBlank c = true) ∧
      Formula.read 1 "(x) y]" = .error (.strayClosing .square 5) := by
  have hname : tokenize "x" = .ok [⟨.atom (.unknown "x"), 0⟩] := by cbv
  have hbad : tokenize "1.2.3" = .error (.badNumeral "1.2.3" 0) := by cbv
  have hseam : ¬ RunsOn "x".toList "1.2.3".toList := by
    rintro (⟨⟨ps, p, x, hps, hp, hx, -⟩, -⟩ | ⟨c, -, d, hd, -, hletter⟩)
    · have hok := ((tokenize_eq_ok_iff_segmentation "x").2.1 _).2 ⟨ps, hps, rfl⟩
      have hlexemes : ps.map Piece.lexeme = [⟨.atom (.unknown "x"), 0⟩] :=
        Except.ok.inj (hok.symm.trans hname)
      have hmem : p.lexeme ∈ ps.map Piece.lexeme := List.mem_map_of_mem hp
      rw [hlexemes] at hmem
      cases hx.symm.trans (congrArg Lexeme.token (List.mem_singleton.1 hmem))
    · obtain rfl : '1' = d := Option.some.inj hd
      exact absurd hletter (by decide)
  have hgroup : Formula.read 1 "(x)" = .ok (.group (.atom (.unknown "x") .nil) .nil) := by
    have hscan : (Cursor.start "(x)").scan =
        ([⟨.opening .round, 0⟩, ⟨.atom (.unknown "x"), 1⟩, ⟨.closing .round, 2⟩], none) := by
      cbv
    rw [Formula.read, hscan]
    rfl
  have hstray : Formula.read 1 "y]" = .error (.strayClosing .square 1) := by
    have hscan : (Cursor.start "y]").scan =
        ([⟨.atom (.unknown "y"), 0⟩, ⟨.closing .square, 1⟩], none) := by
      cbv
    rw [Formula.read, hscan]
    rfl
  have hblank : ∀ c ∈ " ".toList, isBlank c = true := List.all_eq_true.1 (by decide)
  have htokens := tokenize_and_read_append.1 "x" "1.2.3" _ hname hseam
  have hread := tokenize_and_read_append.2 1 "(x)" " " "y]" _ hgroup (by decide) hblank
  rw [hbad] at htokens
  rw [hstray] at hread
  exact ⟨hname, hseam, htokens, hgroup, by decide, hblank, hread⟩

end Reckon
