import Reckon.Proofs.Binding
import Reckon.Proofs.Session
import Reckon.Proofs.Splicing

/-! Constants stay bound. They are bound once, when an expression is made; from then on formulas
only pass between expressions in which none is left, so there is none to come back. -/
namespace Reckon
open Formula

def constantNames : List String := ["pi", "e", "tau", "deg"]

namespace Expression

def ConstantFree (e : Expression) : Prop :=
  ∀ name ∈ constantNames, name ∉ e.formula.unknowns

theorem constantFree_invariant : Workspace.Invariant (fun _ => True) ConstantFree where
  made := by
    intro s f e _ he name hname hleft
    obtain ⟨-, rfl⟩ := ofFormula_eq_ok.1 he
    obtain ⟨-, hnone⟩ :=
      (mem_unknowns_replace_numeric (Assignment.numeric_ofBindings constants)).1 hleft
    have hlookup : constants.lookup name ≠ none := lookup_ne_none.2 hname
    exact hlookup (Option.map_eq_none_iff.1 hnone)
  bound := by
    intro e other x he name hname hleft
    have hbefore := (mem_unknowns_replace_numeric (Assignment.numeric_single other x)).1 hleft
    exact he name hname hbefore.1
  spliced := by
    intro e other o he ho name hname hleft
    obtain ⟨h, -⟩ | ⟨_, inner, -, hinner, h⟩ := mem_unknowns_replace.1 hleft
    · exact he name hname h
    · simp only [Assignment.single] at hinner
      split at hinner <;> cases hinner
      exact ho name hname h

variable {e : Expression}

theorem ConstantFree.replace_single (h : e.ConstantFree) {name : String}
    (hname : name ∈ constantNames) (entry : Entry) :
    e.formula.replace (.single name entry) = e.formula := by
  refine replace_eq_self fun other hother => Assignment.single_of_ne ?_ entry
  rintro rfl
  exact h other hname hother

theorem ConstantFree.bind (h : e.ConstantFree) {name : String}
    (hname : name ∈ constantNames) (x : Float) : e.bind name x = e := by
  have hsame : e.formula.bind name x = e.formula := h.replace_single hname _
  rw [Expression.bind, hsame]

theorem ConstantFree.bindExpression (h : e.ConstantFree) {name : String}
    (hname : name ∈ constantNames) (other : Expression) :
    e.bindExpression name other = e := by
  have hsame : e.formula.bindFormula name other.formula = e.formula := h.replace_single hname _
  rw [Expression.bindExpression, hsame]

theorem ConstantFree.bindAll (h : e.ConstantFree) (values : Bindings) :
    e.bindAll values = e.bindAll (values.filter (·.1 ∉ constantNames)) := by
  induction values generalizing e with
  | nil => rfl
  | cons value values ih =>
    by_cases hname : value.1 ∈ constantNames
    · have hrest : (value :: values).filter (·.1 ∉ constantNames) =
          values.filter (·.1 ∉ constantNames) := List.filter_cons_of_neg (by simpa using hname)
      rw [hrest, ← ih h]
      exact congrArg (Expression.bindAll · values) (h.bind hname value.2)
    · have hrest : (value :: values).filter (·.1 ∉ constantNames) =
          value :: values.filter (·.1 ∉ constantNames) :=
        List.filter_cons_of_pos (by simpa using hname)
      rw [hrest]
      exact ih (constantFree_invariant.bound e value.1 value.2 h)

theorem ConstantFree.ofFormula (h : e.ConstantFree) {s : Settings} (hs : s.validates = false) :
    Expression.ofFormula s e.formula = .ok ⟨e.formula, s⟩ := by
  have hsame : e.formula.replace (.ofBindings constants) = e.formula := by
    refine replace_eq_self fun name hname => Option.map_eq_none_iff.2 ?_
    refine Classical.byContradiction fun hlookup => ?_
    exact h name (lookup_ne_none.1 hlookup) hname
  refine ofFormula_eq_ok.2 ⟨fun hv => ?_, by rw [hsame]⟩
  rw [hs] at hv
  cases hv

end Expression

/-- At every moment of every run, whatever formulas expressions are made of: no constant is left in
any of them, at any depth, so nothing can be bound to one, and an expression made again of what is
in one is the same. -/
theorem Workspace.run_leaves_no_constant (steps : List Step) (slot : String) (e : Expression)
    (he : (run [] steps).2.get? slot = some e) :
    (∀ name ∈ constantNames,
      (∀ depth, (depth, .atom (.unknown name)) ∉ e.formula.rows 0) ∧
      (∀ x, e.bind name x = e) ∧ ∀ other, e.bindExpression name other = e) ∧
    (∀ values : Bindings,
      e.bindAll values = e.bindAll (values.filter (·.1 ∉ constantNames))) ∧
    ∀ s : Settings, s.validates = false →
      Expression.ofFormula s e.formula = .ok ⟨e.formula, s⟩ := by
  have hfree : e.ConstantFree := Expression.constantFree_invariant.run holds_nil
    (fun step _ => step.action.under_of_forall fun _ => trivial) slot e he
  refine ⟨fun name hname => ⟨?_, hfree.bind hname, hfree.bindExpression hname⟩, hfree.bindAll,
    fun s hs => hfree.ofFormula hs⟩
  intro depth hrow
  exact hfree name hname ((mem_unknowns_iff_rows 0).2 ⟨depth, hrow⟩)

/-- `pi + (x * e)` put into itself: the copy inside brings no constant along either. -/
theorem Workspace.run_constants_into_itself :
    let f := Formula.atom (.unknown "pi") (.atom (.binary .add) (.group (.atom (.unknown "x")
      (.atom (.binary .multiply) (.atom (.unknown "e") .nil))) .nil))
    let made : Expression := ⟨f.replace (.ofBindings constants), .standard⟩
    let e := made.bindExpression "x" made
    let steps : List Step := [⟨"a", .build f (.ok .standard)⟩, ⟨"a", .bindExpression "x" "a"⟩]
    (run [] steps).2.get? "a" = some e ∧ "x" ∈ e.formula.unknowns ∧
      (2, .atom (.unknown "e")) ∉ e.formula.rows 0 ∧ e.bind "e" 0 = e ∧
      e.bindAll [("pi", 3), ("x", 1)] = e.bind "x" 1 ∧
      Expression.ofFormula .standard e.formula = .ok e := by
  intro f made e steps
  have he : (run [] steps).2.get? "a" = some e := rfl
  obtain ⟨hnames, hall, hagain⟩ := run_leaves_no_constant steps "a" e he
  obtain ⟨hrows, hbind, -⟩ := hnames "e" (by decide)
  exact ⟨he, by decide, hrows 2, hbind 0, hall [("pi", 3), ("x", 1)], hagain .standard rfl⟩

end Reckon
