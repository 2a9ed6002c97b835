import Reckon.Proofs.Legible

/-! Where tokens stand. Each token is what a piece of the text spells; the pieces lie one behind the
other, have all characters in them but the blanks, and are as long as they can be. There is only one
way to cut a text like this. -/
namespace Reckon
open Text Numeral

/-- What a text on its own stands for. -/
inductive Spells : List Char → Token → Prop where
  | numeral {run : List Char} {x : Float} :
      NumeralRun run → readRun? run = some x → Spells run (.atom (.number x))
  | function (f : Elementary) : Spells f.name.toList (.atom (.function f))
  | unknown {run : List Char} :
      run ≠ [] → (∀ c ∈ run, isNameChar c = true) → (∀ f : Elementary, f.name.toList ≠ run) →
        Spells run (.atom (.unknown (String.ofList run)))
  | symbol {c : Char} {t : Token} : Token.ofSymbol? c = some t → Spells [c] t

theorem toList_name_of_ofName? {run : List Char} {f : Elementary}
    (h : Elementary.ofName? (String.ofList run) = some f) : f.name.toList = run := by
  rw [Elementary.name_of_ofName? h, String.toList_ofList]

theorem Spells.head_eq {run : List Char} {t : Token} (h : Spells run t) :
    head run = .token t run [] := by
  cases h with
  | numeral hrun hx =>
    obtain ⟨c, cs, rfl, hc, hcs⟩ := hrun.exists_cons
    exact head_numeral hc hcs hx
  | function f =>
    have hne : f.name.toList ≠ [] := by cases f <;> decide
    have hhead := head_of_nameChars hne (isNameChar_of_mem_name f)
    rwa [String.ofList_toList, Atom.ofName, Elementary.ofName?_name] at hhead
  | unknown hne hchars hnone =>
    have hhead := head_of_nameChars hne hchars
    cases hf : Elementary.ofName? (String.ofList run) with
    | none => rwa [Atom.ofName, hf] at hhead
    | some f => cases hnone f (toList_name_of_ofName? hf)
  | @symbol c t ht =>
    obtain ⟨hnum, hname⟩ := not_grows_of_mem_symbols (mem_symbols_iff.2 ⟨t, ht⟩)
    exact (Begins.symbol (isNumeralChar_eq_false_iff.1 hnum).1 hname ht).head_eq

theorem Spells.of_head {cs run rest : List Char} {t : Token} (h : head cs = .token t run rest) :
    Spells run t := by
  cases head_eq_iff.1 h with
  | numeral hc hx => exact .numeral (.of_cons hc fun _ => List.mem_takeWhile_imp) hx
  | @name c cs hc =>
    have hchars : ∀ d ∈ c :: cs.takeWhile isNameChar, isNameChar d = true :=
      List.forall_mem_cons.2 ⟨hc, fun _ => List.mem_takeWhile_imp⟩
    generalize hrun : c :: cs.takeWhile isNameChar = run at hchars
    have hne : run ≠ [] := by
      rintro rfl
      cases hrun
    cases hf : Elementary.ofName? (String.ofList run) with
    | none =>
      rw [Atom.ofName, hf]
      refine .unknown hne hchars fun f hname => ?_
      rw [← hname, String.ofList_toList, Elementary.ofName?_name] at hf
      cases hf
    | some f =>
      rw [Atom.ofName, hf, ← toList_name_of_ofName? hf]
      exact .function f
  | symbol _ _ ht => exact .symbol ht

theorem Spells.unique {run : List Char} {t t' : Token} (h : Spells run t) (h' : Spells run t') :
    t = t' := by
  have hhead := h.head_eq.symm.trans h'.head_eq
  simpa using hhead

theorem Spells.ne_nil {run : List Char} {t : Token} (h : Spells run t) : run ≠ [] := by
  rintro rfl
  cases h.head_eq

theorem Spells.not_isBlank {run : List Char} {t : Token} (h : Spells run t) :
    ∀ c ∈ run, isBlank c = false :=
  fun _ hc => isBlank_eq_false (mem_run_of_head h.head_eq hc)

structure Piece where
  lexeme : Lexeme
  run : List Char

namespace Piece

def token (p : Piece) : Token := p.lexeme.token

def start (p : Piece) : Nat := p.lexeme.position

def stop (p : Piece) : Nat := p.start + p.run.length

structure LiesIn (cs : List Char) (p : Piece) : Prop where
  text : p.run <+: cs.drop p.start
  spelled : Spells p.run p.token
  ends : p.token.EndsBefore (cs.drop p.stop)

section
variable {cs : List Char} {p : Piece}

theorem LiesIn.start_lt_stop (h : p.LiesIn cs) : p.start < p.stop :=
  Nat.lt_add_of_pos_right (List.length_pos_iff.2 h.spelled.ne_nil)

theorem LiesIn.drop_start (h : p.LiesIn cs) : cs.drop p.start = p.run ++ cs.drop p.stop := by
  obtain ⟨rest, hrest⟩ := h.text
  rw [stop, ← List.drop_drop, ← hrest, List.drop_left]

theorem LiesIn.stop_le (h : p.LiesIn cs) : p.stop ≤ cs.length := by
  have hlength := h.text.length_le
  have hpos := List.length_pos_iff.2 h.spelled.ne_nil
  rw [List.length_drop] at hlength
  rw [stop]
  omega

theorem LiesIn.mem_run {i : Nat} {c : Char} (h : p.LiesIn cs) (hi : p.start ≤ i) (hi' : i < p.stop)
    (hc : cs[i]? = some c) : c ∈ p.run := by
  have hlt : i - p.start < p.run.length := by
    rw [stop] at hi'
    omega
  have hc' : (cs.drop p.start)[i - p.start]? = some c := by
    rw [List.getElem?_drop, Nat.add_sub_cancel' hi, hc]
  rw [h.drop_start, List.getElem?_append_left hlt] at hc'
  exact List.mem_of_getElem? hc'

end

end Piece

def BlankBetween (cs : List Char) (first past : Nat) : Prop :=
  ∀ i c, first ≤ i → i < past → cs[i]? = some c → isBlank c = true

theorem blankBetween_iff {cs : List Char} {first past : Nat} :
    BlankBetween cs first past ↔ ∀ c ∈ (cs.drop first).take (past - first), isBlank c = true := by
  constructor
  · intro h c hc
    obtain ⟨j, hj⟩ := List.mem_iff_getElem?.1 hc
    rw [List.getElem?_take, List.getElem?_drop, Option.ite_none_right_eq_some] at hj
    exact h (first + j) c (Nat.le_add_right _ _) (by omega) hj.2
  · intro h i c hi hi' hc
    refine h c (List.mem_iff_getElem?.2 ⟨i - first, ?_⟩)
    rw [List.getElem?_take, if_pos (by omega), List.getElem?_drop, Nat.add_sub_cancel' hi, hc]

/-- The text from there on is cut into these pieces. -/
structure Segmentation (cs : List Char) (first : Nat) (ps : List Piece) : Prop where
  behind : ∀ p ∈ ps, first ≤ p.start
  inOrder : ps.Pairwise fun p q => p.stop ≤ q.start
  liesIn : ∀ p ∈ ps, p.LiesIn cs
  covers : ∀ i c, first ≤ i → cs[i]? = some c →
    (isBlank c = false ↔ ∃ p ∈ ps, p.start ≤ i ∧ i < p.stop)

section
variable {cs : List Char} {first : Nat} {p : Piece} {ps : List Piece}

theorem segmentation_nil :
    Segmentation cs first [] ↔ ∀ c ∈ cs.drop first, isBlank c = true := by
  constructor
  · intro h c hc
    obtain ⟨i, hi⟩ := List.mem_iff_getElem?.1 hc
    rw [List.getElem?_drop] at hi
    by_contra hblank
    rw [Bool.not_eq_true] at hblank
    obtain ⟨p, hp, -⟩ := (h.covers _ c (Nat.le_add_right _ _) hi).1 hblank
    cases hp
  · intro h
    refine ⟨by simp, .nil, by simp, fun i c hi hc => ?_⟩
    have hmem : c ∈ cs.drop first := by
      refine List.mem_iff_getElem?.2 ⟨i - first, ?_⟩
      rw [List.getElem?_drop, Nat.add_sub_cancel' hi, hc]
    simp [h c hmem]

theorem segmentation_cons :
    Segmentation cs first (p :: ps) ↔ first ≤ p.start ∧ BlankBetween cs first p.start ∧
      p.LiesIn cs ∧ Segmentation cs p.stop ps := by
  constructor
  · intro h
    obtain ⟨hbehind, -⟩ := List.forall_mem_cons.1 h.behind
    obtain ⟨hfirst, hrest⟩ := List.pairwise_cons.1 h.inOrder
    obtain ⟨hlies, hliesRest⟩ := List.forall_mem_cons.1 h.liesIn
    refine ⟨hbehind, fun i c hi hi' hc => ?_, hlies, hfirst, hrest, hliesRest,
      fun i c hi hc => ?_⟩
    · by_contra hblank
      rw [Bool.not_eq_true] at hblank
      obtain ⟨q, hq, hstart, hstop⟩ := (h.covers i c hi hc).1 hblank
      obtain rfl | hq := List.mem_cons.1 hq
      · omega
      · have := hfirst q hq
        have := hlies.start_lt_stop
        omega
    · have := hlies.start_lt_stop
      rw [h.covers i c (by omega) hc]
      simp only [List.mem_cons, exists_eq_or_imp]
      exact or_iff_right fun hin => by omega
  · rintro ⟨hbehind, hblanks, hlies, h⟩
    have hlt := hlies.start_lt_stop
    refine ⟨?_, List.pairwise_cons.2 ⟨h.behind, h.inOrder⟩,
      List.forall_mem_cons.2 ⟨hlies, h.liesIn⟩, fun i c hi hc => ?_⟩
    · refine List.forall_mem_cons.2 ⟨hbehind, fun q hq => ?_⟩
      have := h.behind q hq
      omega
    · simp only [List.mem_cons, exists_eq_or_imp]
      by_cases hstart : i < p.start
      · have hblank := hblanks i c hi hstart hc
        refine iff_of_false (by simp [hblank]) ?_
        rintro (hin | ⟨q, hq, hin⟩)
        · omega
        · have := h.behind q hq
          omega
      · by_cases hstop : i < p.stop
        · have hmem := hlies.mem_run (by omega) hstop hc
          simp only [hlies.spelled.not_isBlank c hmem, true_iff]
          exact .inl ⟨by omega, hstop⟩
        · rw [h.covers i c (by omega) hc]
          exact (or_iff_right fun hin => by omega).symm

end

namespace Cursor

def inside (cs : List Char) (position : Nat) : Cursor := ⟨cs.drop position, position⟩

section
variable {cs : List Char} {first : Nat} {k' : Cursor}

/-- What is read next from a place in a text is the next piece of it. -/
theorem next_inside_iff {l : Lexeme} :
    (inside cs first).next = (.ok (some l), k') ↔ ∃ p : Piece, p.lexeme = l ∧
      k' = inside cs p.stop ∧ first ≤ p.start ∧ BlankBetween cs first p.start ∧ p.LiesIn cs := by
  unfold inside
  rw [next_eq_token_iff]
  constructor
  · rintro ⟨bs, run, hbs, hcs, hrun, hends, hat, hposition⟩
    have hstart : cs.drop l.position = run ++ k'.rest := by
      rw [hat, ← List.drop_drop, hcs, List.drop_left]
    have hstop : cs.drop k'.position = k'.rest := by
      rw [hposition, ← List.drop_drop, hstart, List.drop_left]
    refine ⟨⟨l, run⟩, rfl, ?_, ?_, ?_, ⟨⟨k'.rest, hstart.symm⟩, .of_head hrun, ?_⟩⟩
    · rw [Piece.stop, Piece.start, ← hposition, hstop]
    · rw [Piece.start, hat]
      exact Nat.le_add_right _ _
    · rw [blankBetween_iff, Piece.start, hat, Nat.add_sub_cancel_left, hcs, List.take_left]
      exact hbs
    · rw [Piece.stop, Piece.start, ← hposition, hstop]
      exact hends
  · rintro ⟨p, rfl, rfl, hfirst, hblanks, hlies⟩
    have hdrop : (cs.drop first).drop (p.start - first) = p.run ++ cs.drop p.stop := by
      rw [List.drop_drop, Nat.add_sub_cancel' hfirst, hlies.drop_start]
    refine ⟨(cs.drop first).take (p.start - first), p.run, blankBetween_iff.1 hblanks, ?_,
      hlies.spelled.head_eq, hlies.ends, ?_, rfl⟩
    · rw [← hdrop, List.take_append_drop]
    · have := hlies.start_lt_stop
      have := hlies.stop_le
      rw [List.length_take, List.length_drop, Nat.min_eq_left (by omega)]
      exact (Nat.add_sub_cancel' hfirst).symm

theorem next_inside_cons {p : Piece} {ps : List Piece} (h : Segmentation cs first (p :: ps)) :
    (inside cs first).next = (.ok (some p.lexeme), inside cs p.stop) := by
  obtain ⟨hfirst, hblanks, hlies, -⟩ := segmentation_cons.1 h
  exact next_inside_iff.2 ⟨p, rfl, rfl, hfirst, hblanks, hlies⟩

theorem next_inside_end (h : Segmentation cs first []) :
    (inside cs first).next = (.ok none, (inside cs first).skipBlanks) :=
  next_of_blanks (segmentation_nil.1 h)

theorem scan_inside_iff {ls : List Lexeme} :
    (inside cs first).scan = (ls, none) ↔
      ∃ ps, Segmentation cs first ps ∧ ps.map Piece.lexeme = ls := by
  constructor
  · intro h
    generalize hk : inside cs first = k at h
    induction k using Cursor.scan.induct generalizing first ls with
    | case1 k l k' hnext _ ls' fault hscan ih =>
      subst hk
      rw [scan_of_token hnext] at h
      obtain ⟨rfl, hnone⟩ := Prod.ext_iff.1 h
      obtain ⟨p, rfl, rfl, hfirst, hblanks, hlies⟩ := next_inside_iff.1 hnext
      obtain ⟨ps, hps, hls⟩ := ih rfl (Prod.ext rfl hnone)
      exact ⟨p :: ps, segmentation_cons.2 ⟨hfirst, hblanks, hlies, hps⟩, congrArg _ hls⟩
    | case2 k k' hnext =>
      subst hk
      rw [scan_of_end hnext] at h
      cases h
      exact ⟨[], segmentation_nil.2 (blank_of_next_end hnext), rfl⟩
    | case3 k e k' hnext =>
      subst hk
      rw [scan_of_fault hnext] at h
      cases h
  · rintro ⟨ps, hps, rfl⟩
    induction ps generalizing first with
    | nil => exact scan_of_end (next_inside_end hps)
    | cons p ps ih =>
      obtain ⟨-, -, -, hrest⟩ := segmentation_cons.1 hps
      rw [scan_of_token (next_inside_cons hps), ih hrest]
      rfl

theorem steps_inside {ps : List Piece} (h : Segmentation cs first ps) (hfirst : first ≤ cs.length) :
    (inside cs first).steps (ps.length + 1) =
      ps.map (fun p => (.ok (some p.lexeme), p.stop)) ++ [(.ok none, cs.length)] := by
  induction ps generalizing first with
  | nil =>
    have hall : (cs.drop first).takeWhile isBlank = cs.drop first :=
      List.takeWhile_eq_self_iff.2 (segmentation_nil.1 h)
    have hposition : (inside cs first).skipBlanks.position = cs.length := by
      simp only [inside, skipBlanks, hall, List.length_drop]
      omega
    simp only [List.length_nil, steps, next_inside_end h, hposition, List.map_nil, List.nil_append]
  | cons p ps ih =>
    obtain ⟨-, -, hlies, hrest⟩ := segmentation_cons.1 h
    rw [List.length_cons, steps, next_inside_cons h, ih hrest hlies.stop_le]
    rfl

end

end Cursor

section
variable {cs : List Char} {first : Nat} {p q : Piece} {ps qs : List Piece}

theorem Piece.LiesIn.run_eq (hp : p.LiesIn cs) (hq : q.LiesIn cs) (hstart : p.start = q.start)
    (hstop : p.stop = q.stop) : p.run = q.run := by
  have htext := hq.drop_start
  rw [← hstart, ← hstop, hp.drop_start] at htext
  exact List.append_cancel_right htext

theorem Segmentation.unique (hps : Segmentation cs first ps) (hqs : Segmentation cs first qs) :
    ps = qs := by
  induction ps generalizing first qs with
  | nil =>
    cases qs with
    | nil => rfl
    | cons q qs => cases (Cursor.next_inside_end hps).symm.trans (Cursor.next_inside_cons hqs)
  | cons p ps ih =>
    cases qs with
    | nil => cases (Cursor.next_inside_end hqs).symm.trans (Cursor.next_inside_cons hps)
    | cons q qs =>
      have hnext := (Cursor.next_inside_cons hps).symm.trans (Cursor.next_inside_cons hqs)
      obtain ⟨-, -, hlies, hps'⟩ := segmentation_cons.1 hps
      obtain ⟨-, -, hlies', hqs'⟩ := segmentation_cons.1 hqs
      have hlexeme : p.lexeme = q.lexeme := by simpa using congrArg Prod.fst hnext
      have hstop : p.stop = q.stop := congrArg (·.2.position) hnext
      have hrun : p.run = q.run := hlies.run_eq hlies' (congrArg Lexeme.position hlexeme) hstop
      have hpiece : p = q := by
        cases p
        cases q
        exact congrArg₂ Piece.mk hlexeme hrun
      rw [← hstop] at hqs'
      rw [hpiece, ih hps' hqs']

theorem Segmentation.starts_increase (h : Segmentation cs first ps) :
    (ps.map Piece.start).Pairwise (· < ·) := by
  refine List.pairwise_map.2 (h.inOrder.imp_of_mem fun hp _ hle => ?_)
  exact Nat.lt_of_lt_of_le (h.liesIn _ hp).start_lt_stop hle

end

theorem tokenize_eq_ok_iff {source : String} {ls : List Lexeme} :
    tokenize source = .ok ls ↔ (Cursor.inside source.toList 0).scan = (ls, none) := by
  have hstart : Cursor.start source = Cursor.inside source.toList 0 := rfl
  unfold tokenize
  rw [hstart]
  obtain ⟨ls', _ | fault⟩ := (Cursor.inside source.toList 0).scan
  · simp
  · simp

/-- A text is tokenized exactly if it is legible, and then it is cut into pieces in the one way
there is, each standing for what its text spells. After the last of them there is nothing but the
end, which is where the text ends. -/
theorem tokenize_eq_ok_iff_segmentation (source : String) :
    ((∃ ls, tokenize source = .ok ls) ↔ Legible source.toList) ∧
    (∀ ls, tokenize source = .ok ls ↔
      ∃ ps, Segmentation source.toList 0 ps ∧ ps.map Piece.lexeme = ls) ∧
    (∀ run t t', Spells run t → Spells run t' → t = t') ∧
    ∀ ps, Segmentation source.toList 0 ps →
      (∀ qs, Segmentation source.toList 0 qs → qs = ps) ∧
      (ps.map Piece.start).Pairwise (· < ·) ∧
      (Cursor.start source).steps (ps.length + 1) =
        ps.map (fun p => (.ok (some p.lexeme), p.stop)) ++ [(.ok none, source.length)] := by
  refine ⟨?_, fun ls => ?_, fun run t t' => Spells.unique, fun ps hps =>
    ⟨fun qs hqs => hqs.unique hps, hps.starts_increase, ?_⟩⟩
  · rw [legible_iff_segmented]
    simp only [segmented_iff_tokenize]
    exact ⟨fun ⟨ls, hls⟩ => ⟨_, ls, hls, rfl⟩, fun ⟨_, ls, hls, _⟩ => ⟨ls, hls⟩⟩
  · rw [tokenize_eq_ok_iff, Cursor.scan_inside_iff]
  · exact Cursor.steps_inside hps (Nat.zero_le _)

/-- A numeral ends where a name begins, and a name goes on behind the name of a function. -/
theorem tokenize_name_behind_numeral : ∃ x,
    let ps : List Piece := [⟨⟨.atom (.number x), 0⟩, ['2', '.', '5']⟩,
      ⟨⟨.atom (.unknown "sine"), 3⟩, ['s', 'i', 'n', 'e']⟩]
    Segmentation "2.5sine".toList 0 ps ∧ tokenize "2.5sine" = .ok (ps.map Piece.lexeme) ∧
      (∀ t, Spells ['s', 'i', 'n', 'e'] t → t = .atom (.unknown "sine")) ∧
      (∀ qs, Segmentation "2.5sine".toList 0 qs → qs = ps) ∧
      (Cursor.start "2.5sine").steps 3 =
        [(.ok (some ⟨.atom (.number x), 0⟩), 3), (.ok (some ⟨.atom (.unknown "sine"), 3⟩), 7),
          (.ok none, 7)] := by
  have hrun : NumeralRun ['2', '.', '5'] := .of_cons (by decide) (List.all_eq_true.1 (by decide))
  cases hx : readRun? ['2', '.', '5'] with
  | none => exact absurd (hrun.readRun?_eq_none_iff.1 hx) (by decide)
  | some x =>
    have hname : Spells ['s', 'i', 'n', 'e'] (.atom (.unknown "sine")) :=
      .unknown (by decide) (List.all_eq_true.1 (by decide)) fun f => by cases f <;> decide
    refine ⟨x, ?_⟩
    intro ps
    have hps : Segmentation "2.5sine".toList 0 ps := by
      have hnone : ∀ place, BlankBetween "2.5sine".toList place place := fun place =>
        blankBetween_iff.2 (by simp)
      refine segmentation_cons.2 ⟨le_rfl, hnone 0, ⟨⟨_, rfl⟩, .numeral hrun hx, ?_⟩,
        segmentation_cons.2 ⟨le_rfl, hnone 3, ⟨⟨_, rfl⟩, hname, ?_⟩, segmentation_nil.2 ?_⟩⟩
      · intro c hc
        have hhead : ("2.5sine".toList.drop 3).head? = some 's' := by decide
        have hletter : isNumeralChar 's' = false := by decide
        cases hhead.symm.trans hc
        exact hletter
      · intro c hc
        have hhead : ("2.5sine".toList.drop 7).head? = none := by decide
        cases hhead.symm.trans hc
      · intro c hc
        have hend : "2.5sine".toList.drop 7 = [] := by decide
        cases hend ▸ hc
    obtain ⟨-, hok, hspells, hcut⟩ := tokenize_eq_ok_iff_segmentation "2.5sine"
    obtain ⟨honly, -, hsteps⟩ := hcut ps hps
    exact ⟨hps, (hok _).2 ⟨ps, hps, rfl⟩, fun t ht => hspells _ t _ ht hname, honly, hsteps⟩

end Reckon
