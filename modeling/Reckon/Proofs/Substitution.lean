import Reckon.Proofs.Binding

/-! Bindings one after the other, and how they trade places. To put a formula in and then to bind
something in the outcome is to bind it in both of them first: what has been put in is open to later
bindings as if it had always been there, and to no earlier one. -/
namespace Reckon

namespace Entry

def unknowns : Entry → List String
  | number _ => []
  | group inner => inner.unknowns

theorem replace_single_eq_self {e : Entry} {name : String} (h : name ∉ e.unknowns) (f : Entry) :
    e.replace (.single name f) = e := by
  cases e with
  | number x => rfl
  | group inner =>
    have hsame : inner.replace (.single name f) = inner := by
      refine Formula.replace_eq_self fun other hother => Assignment.single_of_ne ?_ f
      rintro rfl
      exact h hother
    rw [replace, hsame]

end Entry

namespace Assignment

theorem single_andThen_self (x : String) (e f : Entry) :
    (single x e).andThen (single x f) = single x (e.replace (single x f)) := by
  funext name
  by_cases hx : name = x
  · subst hx
    simp [andThen]
  · simp [andThen, single_of_ne hx]

/-- A binding trades places with others that do not touch its name and do not bring it back: they
are then made beforehand in what is put in for it. -/
theorem single_andThen_comm {x : String} {σ : Assignment} (hx : σ x = none)
    (hfree : ∀ name e, σ name = some e → x ∉ e.unknowns) (d : Entry) :
    (single x d).andThen σ = σ.andThen (single x (d.replace σ)) := by
  funext name
  by_cases hname : name = x
  · subst hname
    simp [andThen, hx]
  · cases hσ : σ name with
    | none => simp [andThen, single_of_ne hname, hσ]
    | some e => simp [andThen, single_of_ne hname, hσ,
        Entry.replace_single_eq_self (hfree name e hσ)]

theorem eq_of_single_eq_some {x name : String} {d e : Entry} (h : single x d name = some e) :
    e = d := by
  simp only [single] at h
  split at h <;> cases h
  rfl

end Assignment

namespace Formula

theorem replace_single_self (f : Formula) (x : String) (d e : Entry) :
    (f.replace (.single x d)).replace (.single x e) =
      f.replace (.single x (d.replace (.single x e))) := by
  rw [replace_replace, Assignment.single_andThen_self]

theorem replace_single_comm (f : Formula) {x : String} {σ : Assignment} (hx : σ x = none)
    (hfree : ∀ name e, σ name = some e → x ∉ e.unknowns) (d : Entry) :
    (f.replace (.single x d)).replace σ = (f.replace σ).replace (.single x (d.replace σ)) := by
  rw [replace_replace, replace_replace, Assignment.single_andThen_comm hx hfree]

theorem replace_single_single (f : Formula) {x y : String} (hxy : x ≠ y) (d : Entry) {e : Entry}
    (he : x ∉ e.unknowns) :
    (f.replace (.single x d)).replace (.single y e) =
      (f.replace (.single y e)).replace (.single x (d.replace (.single y e))) := by
  refine f.replace_single_comm (Assignment.single_of_ne hxy e) (fun name e' h => ?_) d
  rw [Assignment.eq_of_single_eq_some h]
  exact he

end Formula

namespace Expression

/-- To bind a name after a formula has been put in is to bind it in that formula beforehand, and in
the expression around it. -/
theorem bindExpression_trades_places (a b c : Expression) {x y : String} (hxy : x ≠ y)
    (v : Float) :
    (a.bindExpression x b).bind y v = (a.bind y v).bindExpression x (b.bind y v) ∧
    (a.bindExpression x b).bind x v = a.bindExpression x (b.bind x v) ∧
    (x ∉ c.unresolved → (a.bindExpression x b).bindExpression y c =
      (a.bindExpression y c).bindExpression x (b.bindExpression y c)) := by
  refine ⟨?_, ?_, ?_⟩
  · have hv : x ∉ (Entry.number v).unknowns := List.not_mem_nil
    have hsame := a.formula.replace_single_single hxy (.group b.formula) hv
    exact congrArg (Expression.mk · a.settings) hsame
  · have hsame := a.formula.replace_single_self x (.group b.formula) (.number v)
    exact congrArg (Expression.mk · a.settings) hsame
  · intro hfresh
    have hc : x ∉ (Entry.group c.formula).unknowns := fun h => hfresh (Formula.mem_unresolved.2 h)
    have hsame := a.formula.replace_single_single hxy (.group b.formula) hc
    exact congrArg (Expression.mk · a.settings) hsame

/-- `x + (y)` with `x * y` for `x`, and then `(z)` for `y`: the unknown `x` that was put in is still
there, and each `y` has been found, the one put in as well. -/
theorem bindExpression_trades_places_below :
    let a : Expression := ⟨.atom (.unknown "x") (.atom (.binary .add)
      (.group (.atom (.unknown "y") .nil) .nil)), .standard⟩
    let b : Expression := ⟨.atom (.unknown "x") (.atom (.binary .multiply)
      (.atom (.unknown "y") .nil)), .standard⟩
    let c : Expression := ⟨.atom (.unknown "z") .nil, .standard⟩
    "x" ≠ "y" ∧ "x" ∉ c.unresolved ∧
      (a.bindExpression "x" b).bindExpression "y" c =
        (a.bindExpression "y" c).bindExpression "x" (b.bindExpression "y" c) ∧
      ((a.bindExpression "x" b).bindExpression "y" c).formula.unknowns = ["x", "z", "z"] := by
  intro a b c
  have hxy : "x" ≠ "y" := by decide
  have hfresh : "x" ∉ c.unresolved := by decide
  exact ⟨hxy, hfresh, (bindExpression_trades_places a b c hxy 0).2.2 hfresh, by decide⟩

end Expression
end Reckon
