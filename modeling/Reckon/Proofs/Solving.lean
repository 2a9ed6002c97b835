import Reckon.Proofs.Binding
import Reckon.Proofs.Meaning

/-! From a text to a number. Reading, binding and evaluating together accept the sums of the grammar
whose brackets have room and whose unknowns all have numbers, and give what they mean. -/
namespace Reckon
open Outcome

/-! Roots are not written as an operator, so there are none in what is read. -/

theorem Token.ofSymbol?_ne_root {c : Char} {t : Token} (h : ofSymbol? c = some t) :
    t ≠ .atom (.binary .root) := by
  unfold ofSymbol? at h
  split at h <;> cases h <;> simp

theorem head_ne_root {cs run rest : List Char} {t : Token} (h : head cs = .token t run rest) :
    t ≠ .atom (.binary .root) := by
  cases cs with
  | nil => cases h
  | cons c cs =>
    simp only [head, numeralHead, symbolHead] at h
    split at h
    · split at h <;> cases h
      simp
    · split at h
      · cases h
        unfold Atom.ofName
        split <;> simp
      · split at h <;> cases h
        next ht => exact Token.ofSymbol?_ne_root ht

theorem Cursor.next_ne_root {k k' : Cursor} {l : Lexeme} (h : k.next = (.ok (some l), k')) :
    l.token ≠ .atom (.binary .root) := by
  unfold next at h
  simp only at h
  split at h <;> cases h
  next hd => exact head_ne_root hd

theorem Cursor.scan_ne_root (k : Cursor) : ∀ l ∈ k.scan.1, l.token ≠ .atom (.binary .root) := by
  fun_induction scan k with
  | case1 k l k' h _ ls fault hls ih =>
    intro m hm
    obtain rfl | hm := List.mem_cons.1 hm
    · exact next_ne_root h
    · rw [hls] at ih
      exact ih m hm
  | case2 => simp
  | case3 => simp

theorem tokenize_ne_root {source : String} {ls : List Lexeme} (h : tokenize source = .ok ls) :
    .atom (.binary .root) ∉ ls.map (·.token) := by
  have hscan := (Cursor.start source).scan_ne_root
  unfold tokenize at h
  split at h
  · next hls =>
    cases h
    rw [hls] at hscan
    intro hmem
    obtain ⟨l, hl, htoken⟩ := List.mem_map.1 hmem
    exact hscan l hl htoken
  · cases h

/-! What names stand for: constants keep their value whatever else is given. -/

def meaning (values : List (String × Float)) (name : String) : Float :=
  ((constants.lookup name).or (values.reverse.lookup name)).getD 0

/-- All numbers that are bound, the constants first. -/
def givenBindings (values : List (String × Float)) : Bindings := constants ++ .ofList values

theorem lookup_givenBindings (values : List (String × Float)) (name : String) :
    (givenBindings values).lookup name =
      (constants.lookup name).or (values.reverse.lookup name) := by
  rw [givenBindings, List.lookup_append, Bindings.lookup_ofList]

def Known (values : List (String × Float)) (name : String) : Prop :=
  name ∈ ["pi", "e", "tau", "deg"] ∨ name ∈ values.map Prod.fst

theorem lookup_givenBindings_ne_none {values : List (String × Float)} {name : String} :
    (givenBindings values).lookup name ≠ none ↔ Known values name := by
  have hconstants : constants.lookup name ≠ none ↔ name ∈ ["pi", "e", "tau", "deg"] :=
    lookup_ne_none
  have hvalues : values.reverse.lookup name ≠ none ↔ name ∈ values.map Prod.fst := by
    rw [lookup_ne_none, List.map_reverse, List.mem_reverse]
  rw [lookup_givenBindings, Known, ← hconstants, ← hvalues]
  cases constants.lookup name with
  | none => simp
  | some y => simp

namespace Phrase
variable {p : Sum} {values : List (String × Float)} {limit : Int} {x : Float}

theorem root_not_mem_operators {source : String} {ls : List Lexeme}
    (hls : tokenize source = .ok ls) (hp : p.tokens = ls.map (·.token)) :
    .root ∉ p.operators := by
  intro hmem
  have htoken := mem_tokens_of_mem_operators hmem
  rw [hp] at htoken
  exact tokenize_ne_root hls htoken

theorem evaluate_replace_givenBindings (hdepth : p.depth ≤ limit.toNat)
    (hknown : ∀ name ∈ p.unknowns, Known values name) :
    (p.formula.replace (.ofBindings (givenBindings values))).evaluate limit =
      .ok (p.value (meaning values)) := by
  have hsame : p.formula.replace (.ofBindings (givenBindings values)) =
      p.formula.replace (.ofValues (meaning values)) := by
    refine Formula.replace_congr fun name hname => ?_
    rw [unknowns_formula] at hname
    obtain ⟨x, hx⟩ := Option.ne_none_iff_exists'.1
      (lookup_givenBindings_ne_none.2 (hknown name hname))
    have hmeaning : meaning values name = x := by
      rw [meaning, ← lookup_givenBindings, hx]
      rfl
    simp only [Assignment.ofBindings, Assignment.ofValues, hx, hmeaning, Option.map_some]
  rw [hsame]
  exact evaluate_formula (meaning values) p hdepth

theorem known_of_evaluate
    (h : (p.formula.replace (.ofBindings (givenBindings values))).evaluate limit = .ok x) :
    ∀ name ∈ p.unknowns, Known values name := by
  intro name hname
  rw [← unknowns_formula] at hname
  exact lookup_givenBindings_ne_none.1 (Formula.lookup_ne_none_of_evaluate h hname)

end Phrase

variable {s : Settings} {source : String} {values : List (String × Float)} {x : Float}

/-- Without the check, to solve is to read, to put in all numbers at once and to evaluate. -/
theorem solve_eq_ok_iff_formula (hs : s.validates = false) :
    solve s source values = .ok x ↔ ∃ f, Formula.read s.limit source = .ok f ∧
      (f.replace (.ofBindings (givenBindings values))).evaluate s.limit = .ok x := by
  have hall : ∀ f : Formula,
      (Expression.bindAll ⟨f.replace (.ofBindings constants), s⟩ (.ofList values)).evaluate =
        (f.replace (.ofBindings (givenBindings values))).evaluate s.limit := by
    intro f
    rw [Expression.evaluate, Expression.formula_bindAll, Expression.settings_bindAll,
      Formula.replace_replace, Assignment.ofBindings_append]
    rfl
  simp only [solve, Expression.read, bind_eq_ok, Expression.ofFormula_eq_ok, hs]
  constructor
  · intro h
    obtain ⟨e, ⟨f, hread, -, rfl⟩, he⟩ := h
    rw [hall] at he
    exact ⟨f, hread, he⟩
  · intro h
    obtain ⟨f, hread, hf⟩ := h
    exact ⟨_, ⟨f, hread, by simp, rfl⟩, (hall f).trans hf⟩

/-- A text is solved if it is a sum with room for its brackets and numbers for its unknowns, and
then it is worth the value of any of its derivations. -/
theorem solve_eq_ok (hs : s.validates = false) :
    solve s source values = .ok x ↔ ∃ ls, tokenize source = .ok ls ∧ ∃ p : Phrase.Sum,
      p.tokens = ls.map (·.token) ∧ .root ∉ p.operators ∧ p.depth ≤ s.maxDepth ∧
      (∀ name ∈ p.unknowns, Known values name) ∧ p.value (meaning values) = x := by
  have hnumeric := Assignment.numeric_ofBindings (givenBindings values)
  rw [solve_eq_ok_iff_formula hs]
  constructor
  · intro h
    obtain ⟨f, hread, hf⟩ := h
    obtain ⟨ls, hls, hwritten, hdepth⟩ := Formula.read_eq_ok.1 hread
    obtain ⟨hfit, -⟩ := Formula.fits_of_evaluate hf
    obtain ⟨p, hts, rfl⟩ :=
      Phrase.exists_of_written hwritten ((Formula.fits_replace_numeric hnumeric).1 hfit)
    rw [Phrase.depth_formula] at hdepth
    have hroot := Phrase.root_not_mem_operators hls hts
    have hknown := Phrase.known_of_evaluate hf
    rw [Phrase.evaluate_replace_givenBindings hdepth hknown] at hf
    exact ⟨ls, hls, p, hts, hroot, hdepth, hknown, Except.ok.inj hf⟩
  · intro h
    obtain ⟨ls, hls, p, hts, -, hdepth, hknown, rfl⟩ := h
    refine ⟨p.formula, Formula.read_eq_ok.2 ⟨ls, hls, hts ▸ p.written_formula, ?_⟩, ?_⟩
    · rw [Phrase.depth_formula]
      exact hdepth
    · exact Phrase.evaluate_replace_givenBindings hdepth hknown

set_option maxRecDepth 8000 in
/-- To name a constant in the numbers that are given does not change it. -/
theorem solve_with_given_constant :
    Settings.standard.validates = false ∧
      solve .standard "e*[x-pi]" [("x", 1), ("pi", 0)] = .ok (Binary.multiply.apply
        2.718281828459045 (Binary.subtract.apply 1 3.141592653589793)) := by
  have htokens : tokenize "e*[x-pi]" = .ok [⟨.atom (.unknown "e"), 0⟩,
      ⟨.atom (.binary .multiply), 1⟩, ⟨.opening .square, 2⟩, ⟨.atom (.unknown "x"), 3⟩,
      ⟨.atom (.binary .subtract), 4⟩, ⟨.atom (.unknown "pi"), 5⟩, ⟨.closing .square, 7⟩] := by
    cbv
  let difference : Phrase.Sum := .joined (.lone (.lone (.lone (.lone (.unknown "x"))))) .subtract
    rfl (.lone (.lone (.lone (.unknown "pi"))))
  let p : Phrase.Sum := .lone (.joined (.lone (.lone (.lone (.unknown "e")))) .multiply rfl
    (.lone (.lone (.bracketed .square difference))))
  have hroot : .root ∉ p.operators := by decide
  have hdepth : p.depth ≤ Settings.standard.maxDepth := by decide
  have hknown : ∀ name ∈ p.unknowns, Known [("x", 1), ("pi", 0)] name := by
    simp [p, difference, Phrase.unknowns, Known]
  have hvalue : p.value (meaning [("x", 1), ("pi", 0)]) = Binary.multiply.apply
      2.718281828459045 (Binary.subtract.apply 1 3.141592653589793) := by
    rfl
  exact ⟨rfl, (solve_eq_ok rfl).2 ⟨_, htokens, p, rfl, hroot, hdepth, hknown, hvalue⟩⟩

end Reckon
