import Reckon.Expression
import Reckon.Proofs.Row

/-! Numbers bound one after the other. To an unknown that a number has been bound to nothing can be
bound again, so a list of bindings is one replacement, and in it the first number counts. -/
namespace Reckon
open Outcome

theorem Assignment.numeric_ofBindings (values : Bindings) : (ofBindings values).Numeric := by
  intro name inner h
  obtain ⟨x, -, hx⟩ := Option.map_eq_some_iff.1 h
  cases hx

theorem Assignment.ofBindings_append (u v : Bindings) :
    (ofBindings u).andThen (ofBindings v) = ofBindings (u ++ v) := by
  funext name
  simp only [andThen, ofBindings, List.lookup_append]
  cases List.lookup name u with
  | none => rfl
  | some x => rfl

theorem Assignment.ofBindings_singleton (name : String) (x : Float) :
    ofBindings [(name, x)] = single name (.number x) := by
  funext other
  by_cases h : other = name
  · subst h
    simp [ofBindings]
  · simp [ofBindings, single_of_ne h, h]

namespace Expression

theorem ofFormula_eq_ok {s : Settings} {f : Formula} {e : Expression} :
    ofFormula s f = .ok e ↔ (s.validates = true → f.validate s.limit = .ok ()) ∧
      e = ⟨f.replace (.ofBindings constants), s⟩ := by
  cases hs : s.validates with
  | false => simp [ofFormula, hs, pure, Except.pure, eq_comm]
  | true =>
    cases hv : f.validate s.limit with
    | error fault => simp [ofFormula, hs, hv, Functor.map, Except.map]
    | ok _ => simp [ofFormula, hs, hv, pure, Except.pure, eq_comm]

theorem formula_bindAll (e : Expression) (values : Bindings) :
    (e.bindAll values).formula = e.formula.replace (.ofBindings values) := by
  induction values generalizing e with
  | nil => exact (Formula.replace_none e.formula).symm
  | cons value values ih =>
    have hfirst : (e.bind value.1 value.2).formula =
        e.formula.replace (.ofBindings [value]) := by
      rw [Assignment.ofBindings_singleton]
      rfl
    have hsplit : value :: values = [value] ++ values := rfl
    rw [hsplit, bindAll_append, ih, ← Assignment.ofBindings_append, ← Formula.replace_replace]
    exact congrArg (Formula.replace _) hfirst

end Expression

theorem lookup_ne_none {b : Bindings} {name : String} :
    b.lookup name ≠ none ↔ name ∈ b.map Prod.fst := by
  simp [List.lookup_eq_none_iff]

theorem Formula.lookup_ne_none_of_evaluate {f : Formula} {values : Bindings} {limit : Int}
    {x : Float} (h : (f.replace (.ofBindings values)).evaluate limit = .ok x) {name : String}
    (hname : name ∈ f.unknowns) : values.lookup name ≠ none := by
  intro hlookup
  obtain ⟨-, hnone⟩ := fits_of_evaluate h
  have hleft : name ∈ (f.replace (.ofBindings values)).unknowns := by
    rw [mem_unknowns_replace_numeric (Assignment.numeric_ofBindings values),
      Assignment.ofBindings, hlookup]
    exact ⟨hname, rfl⟩
  rw [hnone] at hleft
  cases hleft

/-- Of several numbers for one name the last one is kept, and earlier ones only where there is no
later one. -/
theorem Bindings.lookup_insertAll (b : Bindings) (values : List (String × Float)) (name : String) :
    (b.insertAll values).lookup name = (values.reverse.lookup name).or (b.lookup name) := by
  induction values generalizing b with
  | nil => rfl
  | cons value values ih =>
    obtain ⟨key, x⟩ := value
    have hinsert : (insert key x b).lookup name = ([(key, x)].lookup name).or (b.lookup name) := by
      by_cases h : name = key
      · subst h
        simp [lookup_insert_self]
      · have hne : (name == key) = false := beq_eq_false_iff_ne.2 h
        simp [lookup_insert_of_ne b h, List.lookup_cons, hne]
    have hrest := ih (insert key x b)
    rw [hinsert] at hrest
    rw [List.reverse_cons, List.lookup_append, Option.or_assoc]
    exact hrest

theorem Bindings.lookup_ofList (values : List (String × Float)) (name : String) :
    (Bindings.ofList values).lookup name = values.reverse.lookup name := by
  rw [ofList, lookup_insertAll, List.lookup_nil, Option.or_none]

end Reckon
