import Reckon.Proofs.Limit
import Reckon.Proofs.Constants
import Reckon.Proofs.Segments
import Reckon.Proofs.Substitution

/-! Formulas put in as text. Whoever writes a text in brackets wherever a name stands, and reads the
outcome, gets the formula in which that name has been bound to what the text is read as. -/
namespace Reckon
open Outcome

def Token.isUnknown (name : String) : Token → Bool
  | .atom (.unknown other) => other == name
  | _ => false

theorem Token.eq_of_isUnknown {name : String} {t : Token} (h : t.isUnknown name = true) :
    t = .atom (.unknown name) := by
  unfold isUnknown at h
  split at h
  · rw [beq_iff_eq.1 h]
  · cases h

/-- The characters `cs`, which begin at `position`, with others in brackets in the place of a name
wherever it is among the tokens. -/
def pasteFrom (name : String) (inner : List Char) : List Lexeme → Nat → List Char → List Char
  | [], _, cs => cs
  | l :: ls, position, cs =>
    if l.token.isUnknown name then
      let before := l.position - position
      cs.take before ++ '(' :: (inner ++ ')' ::
        pasteFrom name inner ls (l.position + name.length) (cs.drop (before + name.length)))
    else pasteFrom name inner ls position cs

/-- The text `source` with `inner` in round brackets in place of every token that is the name. -/
def paste (name inner source : String) : String :=
  match tokenize source with
  | .ok ls => String.ofList (pasteFrom name inner.toList ls 0 source.toList)
  | .error _ => source

def Token.pasted (name : String) (us : List Token) (t : Token) : List Token :=
  if t.isUnknown name then .opening .round :: (us ++ [.closing .round]) else [t]

section
variable {name : String} {inner : List Char} {ls : List Lexeme}

theorem pasteFrom_found {l : Lexeme} (h : l.token.isUnknown name = true) (position : Nat)
    (cs : List Char) :
    pasteFrom name inner (l :: ls) position cs = cs.take (l.position - position) ++
      '(' :: (inner ++ ')' :: pasteFrom name inner ls (l.position + name.length)
        (cs.drop (l.position - position + name.length))) := if_pos h

theorem pasteFrom_passed {l : Lexeme} (h : ¬ l.token.isUnknown name = true) (position : Nat)
    (cs : List Char) :
    pasteFrom name inner (l :: ls) position cs = pasteFrom name inner ls position cs := if_neg h

theorem pasteFrom_append {position : Nat} {us : List Char}
    (h : ∀ l ∈ ls, position + us.length ≤ l.position) (cs : List Char) :
    pasteFrom name inner ls position (us ++ cs) =
      us ++ pasteFrom name inner ls (position + us.length) cs := by
  induction ls with
  | nil => rfl
  | cons l ls ih =>
    obtain ⟨hl, hls⟩ := List.forall_mem_cons.1 h
    by_cases hname : l.token.isUnknown name = true
    · have htake : (us ++ cs).take (l.position - position) =
          us ++ cs.take (l.position - (position + us.length)) := by
        rw [List.take_append, List.take_of_length_le (by omega), Nat.sub_add_eq]
      have hdrop : (us ++ cs).drop (l.position - position + name.length) =
          cs.drop (l.position - (position + us.length) + name.length) := by
        have hcount : l.position - position + name.length - us.length =
            l.position - (position + us.length) + name.length := by omega
        rw [List.drop_append, List.drop_of_length_le (by omega), hcount, List.nil_append]
      rw [pasteFrom_found hname, pasteFrom_found hname, htake, hdrop, List.append_assoc]
    · rw [pasteFrom_passed hname, pasteFrom_passed hname, ih hls]

theorem head?_pasteFrom {position : Nat} {cs : List Char} {c : Char}
    (h : c ∈ (pasteFrom name inner ls position cs).head?) : c = '(' ∨ c ∈ cs.head? := by
  induction ls with
  | nil => exact .inr h
  | cons l ls ih =>
    by_cases hname : l.token.isUnknown name = true
    · rw [pasteFrom_found hname] at h
      cases hbefore : cs.take (l.position - position) with
      | nil =>
        rw [hbefore] at h
        exact .inl (Option.some.inj h).symm
      | cons d ds =>
        rw [hbefore] at h
        have hcs := List.take_append_drop (l.position - position) cs
        rw [hbefore] at hcs
        rw [← hcs]
        exact .inr h
    · rw [pasteFrom_passed hname] at h
      exact ih h

end

theorem Token.EndsBefore.pasteFrom {name : String} {inner cs : List Char} {ls : List Lexeme}
    {t : Token} {position : Nat} (h : t.EndsBefore cs) :
    t.EndsBefore (pasteFrom name inner ls position cs) := by
  intro c hc
  obtain rfl | hc := head?_pasteFrom hc
  · exact (partsFrom_cons (by decide) []).endsBefore t '(' rfl
  · exact h c hc

theorem run_of_head_unknown {cs run rest : List Char} {name : String}
    (h : head cs = .token (.atom (.unknown name)) run rest) : String.ofList run = name := by
  generalize ht : Token.atom (.unknown name) = t at h
  cases head_eq_iff.1 h with
  | numeral => cases ht
  | name =>
    unfold Atom.ofName at ht
    split at ht <;> cases ht
    rfl
  | symbol _ _ hsymbol =>
    subst ht
    unfold Token.ofSymbol? at hsymbol
    split at hsymbol <;> cases hsymbol

namespace Cursor

theorem position_le_of_scan (k : Cursor) : ∀ l ∈ k.scan.1, k.position ≤ l.position := by
  induction k using Cursor.scan.induct with
  | case1 k l k' hnext _ ls fault hscan ih =>
    obtain ⟨bs, run, -, -, -, -, hl, hk'⟩ := next_eq_token_iff.1 hnext
    rw [scan_of_token hnext]
    refine List.forall_mem_cons.2 ⟨by omega, fun m hm => ?_⟩
    have := ih m hm
    omega
  | case2 k k' hnext =>
    rw [scan_of_end hnext]
    simp
  | case3 k e k' hnext =>
    rw [scan_of_fault hnext]
    simp

/-- The brackets keep what is put in apart from all around it. -/
theorem segmented_pasteFrom {name : String} {inner : List Char} {us : List Token}
    (hinner : Segmented inner us) {k : Cursor} {ls : List Lexeme} (h : k.scan = (ls, none)) :
    Segmented (pasteFrom name inner ls k.position k.rest)
      (ls.flatMap fun l => l.token.pasted name us) := by
  induction k using Cursor.scan.induct generalizing ls with
  | case1 k l k' hnext _ ls' fault hscan ih =>
    rw [scan_of_token hnext] at h
    obtain ⟨rfl, hnone⟩ := Prod.ext_iff.1 h
    have hrest := ih (Prod.ext rfl hnone)
    have hpositions := k'.position_le_of_scan
    obtain ⟨bs, run, hbs, hcs, hrun, hends, hl, hk'⟩ := next_eq_token_iff.1 hnext
    rw [List.flatMap_cons, hcs]
    by_cases hname : l.token.isUnknown name = true
    · have hlength : name.length = run.length := by
        rw [Token.eq_of_isUnknown hname] at hrun
        rw [← run_of_head_unknown hrun, String.length_ofList]
      have htake : (bs ++ (run ++ k'.rest)).take (l.position - k.position) = bs :=
        List.take_left' (by omega)
      have hdrop : (bs ++ (run ++ k'.rest)).drop (l.position - k.position + name.length) =
          k'.rest := by
        rw [← List.append_assoc]
        exact List.drop_left' (by simp; omega)
      have hposition : l.position + name.length = k'.position := by omega
      have hbehind := hinner.append (hrest.closer .round) (partsFrom_cons (by decide) _)
      rw [pasteFrom_found hname, htake, hdrop, hposition, Token.pasted, if_pos hname]
      simpa [Bracket.opener, Bracket.closer] using (hbehind.opener .round).blanks_append hbs
    · have hfront : ∀ m ∈ k'.scan.1, k.position + (bs ++ run).length ≤ m.position := by
        intro m hm
        have := hpositions m hm
        rw [List.length_append]
        omega
      have hposition : k.position + (bs ++ run).length = k'.position := by
        rw [List.length_append]
        omega
      rw [pasteFrom_passed hname, ← List.append_assoc, pasteFrom_append hfront, hposition,
        Token.pasted, if_neg hname, List.append_assoc]
      exact .token hbs hrun hends.pasteFrom hrest
  | case2 k k' hnext =>
    rw [scan_of_end hnext] at h
    cases h
    exact .blanks (blank_of_next_end hnext)
  | case3 k e k' hnext =>
    rw [scan_of_fault hnext] at h
    cases h

end Cursor

theorem segmented_paste {source inner name : String} {ls : List Lexeme} {us : List Token}
    (hsource : tokenize source = .ok ls) (hinner : Segmented inner.toList us) :
    Segmented (paste name inner source).toList (ls.flatMap fun l => l.token.pasted name us) := by
  have hscan : (Cursor.start source).scan = (ls, none) := by
    unfold tokenize at hsource
    split at hsource <;> cases hsource
    assumption
  rw [paste, hsource, String.toList_ofList]
  exact Cursor.segmented_pasteFrom hinner hscan

namespace Formula

theorem Written.bindFormula {f g : Formula} {ts us : List Token} (hf : f.Written ts)
    (hg : g.Written us) (name : String) :
    (f.bindFormula name g).Written (ts.flatMap (Token.pasted name us)) := by
  induction hf with
  | nil => exact .nil
  | @atom a rest ts _ ih =>
    rw [List.flatMap_cons]
    by_cases ha : (Token.atom a).isUnknown name = true
    · obtain rfl : a = .unknown name := Token.atom.inj (Token.eq_of_isUnknown ha)
      rw [bindFormula_self, Token.pasted, if_pos ha]
      simpa using Written.group .round hg ih
    · have hstays : (Formula.atom a rest).bindFormula name g =
          .atom a (rest.bindFormula name g) := by
        obtain rfl | hstays := a.eq_unknown_or_stays name
        · exact absurd (beq_self_eq_true name) ha
        · exact replace_stays (hstays _) rest
      rw [hstays, Token.pasted, if_neg ha]
      exact .atom ih
  | @group inner rest us' ts b _ _ ih₁ ih₂ =>
    have hshape : (Formula.group inner rest).bindFormula name g =
        .group (inner.bindFormula name g) (rest.bindFormula name g) := rfl
    rw [hshape]
    simpa [Token.pasted, Token.isUnknown] using Written.group b ih₁ ih₂

theorem bindFormula_bindConstants {name : String} (hname : name ∉ constantNames)
    (f g : Formula) :
    (f.bindFormula name g).replace (.ofBindings constants) =
      (f.replace (.ofBindings constants)).bindFormula name
        (g.replace (.ofBindings constants)) := by
  have hnone : Assignment.ofBindings constants name = none := by
    refine Option.map_eq_none_iff.2 (Classical.byContradiction fun hlookup => ?_)
    exact hname (lookup_ne_none.1 hlookup)
  refine f.replace_single_comm hnone (fun other e he => ?_) (.group g)
  cases e with
  | number x => exact List.not_mem_nil
  | group inner => exact absurd he (Assignment.numeric_ofBindings constants other inner)

end Formula

namespace Expression

theorem read_eq_ok {s : Settings} (hs : s.validates = false) {source : String} {e : Expression} :
    read s source = .ok e ↔ ∃ f, Formula.read s.limit source = .ok f ∧
      e = ⟨f.replace (.ofBindings constants), s⟩ := by
  simp [read, bind_eq_ok, ofFormula_eq_ok, hs]

/-- A text put in as text is read as the expression that is put in for the name, under any limit
that has room for it; under all others it is too deep. Whether `inner` has the name in it as well
makes no difference, for neither of the two is searched again. -/
theorem read_paste {s t r : Settings} (hs : s.validates = false) (ht : t.validates = false)
    (hr : r.validates = false) {source inner name : String} {a b : Expression}
    (ha : read s source = .ok a) (hb : read t inner = .ok b) (hname : name ∉ constantNames) :
    read r (paste name inner source) =
      if (a.bindExpression name b).formula.depth ≤ r.maxDepth then
        .ok ⟨(a.bindExpression name b).formula, r⟩
      else .error (.tooDeep r.limit) := by
  obtain ⟨f, hf, rfl⟩ := (read_eq_ok hs).1 ha
  obtain ⟨g, hg, rfl⟩ := (read_eq_ok ht).1 hb
  obtain ⟨ls, hls, hwritten, -⟩ := Formula.read_eq_ok.1 hf
  obtain ⟨us, hus, hinner, -⟩ := Formula.read_eq_ok_iff_segmented.1 hg
  have hsegmented : Segmented (paste name inner source).toList _ := segmented_paste hls hus
  have hall := hwritten.bindFormula hinner name
  rw [List.flatMap_map] at hall
  have hbound := Formula.bindFormula_bindConstants hname f g
  have hdepth := Formula.depth_replace_numeric (Assignment.numeric_ofBindings constants)
    (f.bindFormula name g)
  have hlimit : r.limit.toNat = r.maxDepth := Int.toNat_natCast _
  have hread := Formula.read_of_segmented hsegmented hall r.limit
  rw [hlimit, ← hdepth, hbound] at hread
  change _ = if Formula.depth (Formula.bindFormula _ name _) ≤ r.maxDepth then _ else _
  by_cases hroom : ((f.replace (.ofBindings constants)).bindFormula name
      (g.replace (.ofBindings constants))).depth ≤ r.maxDepth
  · rw [if_pos hroom] at hread
    rw [if_pos hroom]
    exact (read_eq_ok hr).2 ⟨_, hread, by rw [hbound]; rfl⟩
  · rw [if_neg hroom] at hread
    rw [if_neg hroom, read, hread, error_bind]

set_option maxRecDepth 8000 in
/-- `x-y` in place of `x`, of which there is one more than before: two groups deep in the end. -/
theorem read_paste_of_itself :
    let s : Settings := ⟨1, false, by decide⟩
    let f : Formula := .atom (.unknown "x") (.atom (.binary .divide)
      (.group (.atom (.unknown "x") .nil) .nil))
    let g : Formula := .atom (.unknown "x") (.atom (.binary .subtract)
      (.atom (.unknown "y") .nil))
    read s "x/[x]" = .ok ⟨f, s⟩ ∧ read s "x-y" = .ok ⟨g, s⟩ ∧ "x" ∉ constantNames ∧
      paste "x" "x-y" "x/[x]" = "(x-y)/[(x-y)]" ∧
      read .standard "(x-y)/[(x-y)]" = .ok ⟨f.bindFormula "x" g, .standard⟩ ∧
      read s "(x-y)/[(x-y)]" = .error (.tooDeep 1) := by
  intro s f g
  have hsource : tokenize "x/[x]" = .ok [⟨.atom (.unknown "x"), 0⟩, ⟨.atom (.binary .divide), 1⟩,
      ⟨.opening .square, 2⟩, ⟨.atom (.unknown "x"), 3⟩, ⟨.closing .square, 4⟩] := by
    cbv
  have hinner : tokenize "x-y" = .ok [⟨.atom (.unknown "x"), 0⟩,
      ⟨.atom (.binary .subtract), 1⟩, ⟨.atom (.unknown "y"), 2⟩] := by
    cbv
  have hf : f.Written [.atom (.unknown "x"), .atom (.binary .divide), .opening .square,
      .atom (.unknown "x"), .closing .square] := .atom (.atom (.group .square (.atom .nil) .nil))
  have hg : g.Written [.atom (.unknown "x"), .atom (.binary .subtract), .atom (.unknown "y")] :=
    .atom (.atom (.atom .nil))
  have ha : read s "x/[x]" = .ok ⟨f, s⟩ :=
    (read_eq_ok rfl).2 ⟨f, Formula.read_eq_ok.2 ⟨_, hsource, hf, by decide⟩, rfl⟩
  have hb : read s "x-y" = .ok ⟨g, s⟩ :=
    (read_eq_ok rfl).2 ⟨g, Formula.read_eq_ok.2 ⟨_, hinner, hg, by decide⟩, rfl⟩
  have hname : "x" ∉ constantNames := by decide
  have hpaste : paste "x" "x-y" "x/[x]" = "(x-y)/[(x-y)]" := by
    rw [paste, hsource]
    rfl
  have hroom := read_paste rfl rfl (r := .standard) rfl ha hb hname
  have htight := read_paste rfl rfl (r := s) rfl ha hb hname
  rw [hpaste] at hroom htight
  exact ⟨ha, hb, hname, hpaste, hroom, htight⟩

end Expression
end Reckon
