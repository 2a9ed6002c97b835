import Reckon.Proofs.Agreement
import Reckon.Proofs.Binding
import Reckon.Proofs.Session

/-! Checked expressions do not go wrong. The check is made once, before the constants are bound; all
rows keep their shape from then on, whatever is bound or put in. Only depth is left to fail. -/
namespace Reckon
open Outcome

/-- A formula that fits and has no unknowns lacks a value only where there is no room for it. -/
theorem Formula.exists_value {f : Formula} (hfit : f.Fits .start .start) (hnone : f.unknowns = []) :
    ∃ x, ∀ limit, f.evaluate limit =
      if f.depth ≤ limit.toNat then .ok x else .error (.tooDeep limit) := by
  obtain ⟨x, hx⟩ := exists_evaluate_eq_ok.2 ⟨hfit, hnone, Nat.le_refl (f.depth : Int).toNat⟩
  exact ⟨x, fun _ => evaluate_of_value hx⟩

namespace Expression

def WellFormed (e : Expression) : Prop := e.formula.Fits .afterOperator .start

theorem unresolved_eq_nil {e : Expression} (h : e.unresolved = []) : e.formula.unknowns = [] := by
  refine List.eq_nil_iff_forall_not_mem.2 fun name hn => ?_
  have hmem : name ∈ e.unresolved := Formula.mem_unresolved.2 hn
  rw [h] at hmem
  cases hmem

theorem wellFormed_invariant :
    Workspace.Invariant (fun s => s.validates = true) WellFormed where
  made := by
    intro s f e hs he
    obtain ⟨hvalid, rfl⟩ := ofFormula_eq_ok.1 he
    obtain ⟨hfit, -⟩ := Formula.validate_eq_ok.1 (hvalid hs)
    exact (Formula.fits_replace_numeric (Assignment.numeric_ofBindings constants)).2 hfit
  bound := by
    intro e name x he
    exact (Formula.fits_replace_numeric (Assignment.numeric_single name x)).2 he
  spliced := by
    intro e name other he ho
    refine (Formula.fits_replace fun name' inner h => ?_).2 he
    simp only [Assignment.single] at h
    split at h <;> cases h
    exact ho

variable {e : Expression}

theorem WellFormed.validate (h : e.WellFormed) :
    e.validate = if e.formula.depth ≤ e.settings.maxDepth then .ok ()
      else .error (.tooDeep e.settings.limit) := Formula.validate_of_fits h

theorem WellFormed.evaluate (h : e.WellFormed) (hnone : e.unresolved = []) :
    ∃ x, e.evaluate = if e.formula.depth ≤ e.settings.maxDepth then .ok x
      else .error (.tooDeep e.settings.limit) := by
  obtain ⟨hfit, -⟩ := (Formula.fits_afterOperator_iff e.formula).1 h
  obtain ⟨x, hx⟩ := Formula.exists_value hfit (unresolved_eq_nil hnone)
  exact ⟨x, hx e.settings.limit⟩

end Expression

/-- At every moment of every run in which all expressions are checked when they are made. -/
theorem Workspace.run_checked (steps : List Step)
    (hsteps : ∀ step ∈ steps, step.action.Under (fun s => s.validates = true))
    (slot : String) (e : Expression) (he : (run [] steps).2.get? slot = some e) :
    (e.validate = .ok () ↔ e.formula.depth ≤ e.settings.maxDepth) ∧
    (e.settings.maxDepth < e.formula.depth → e.validate = .error (.tooDeep e.settings.limit)) ∧
    (e.unresolved = [] →
      ((∃ x, e.evaluate = .ok x) ↔ e.formula.depth ≤ e.settings.maxDepth) ∧
      (e.settings.maxDepth < e.formula.depth → e.evaluate = .error (.tooDeep e.settings.limit)) ∧
      ∀ fault, e.validate = .error fault ∨ e.evaluate = .error fault →
        fault.kind = .nestingTooDeep) := by
  have hform : e.WellFormed := Expression.wellFormed_invariant.run holds_nil hsteps slot e he
  have hvalidate := hform.validate
  refine ⟨?_, ?_, ?_⟩
  · rw [hvalidate]
    split <;> simp [*]
  · intro hdeep
    rw [hvalidate, if_neg (by omega)]
  · intro hnone
    obtain ⟨x, hx⟩ := hform.evaluate hnone
    rw [hvalidate, hx]
    refine ⟨?_, ?_, ?_⟩
    · split <;> simp [*]
    · intro hdeep
      rw [if_neg (by omega)]
    · intro fault hfault
      split at hfault
      · simp at hfault
      · have hf : Fault.tooDeep e.settings.limit = fault := by simpa using hfault
        subst hf
        rfl

/-- `x + (x)` under the limit 2, put into itself and then given a number: by then it is three
groups deep, and says so. -/
theorem Workspace.run_checked_into_itself :
    let f := Formula.atom (.unknown "x") (.atom (.binary .add)
      (.group (.atom (.unknown "x") .nil) .nil))
    let s : Settings := ⟨2, true, by decide⟩
    let e : Expression := (Expression.bindExpression ⟨f, s⟩ "x" ⟨f, s⟩).bind "x" 1
    let steps : List Step := [⟨"a", .build f (.ok s)⟩, ⟨"a", .bindExpression "x" "a"⟩,
      ⟨"a", .bind "x" 1⟩]
    (∀ step ∈ steps, step.action.Under (fun s => s.validates = true)) ∧
      (run [] steps).2.get? "a" = some e ∧ e.unresolved = [] ∧
      e.validate = .error (.tooDeep 2) ∧ e.evaluate = .error (.tooDeep 2) := by
  intro f s e steps
  have hsteps : ∀ step ∈ steps, step.action.Under (fun s => s.validates = true) := by
    simp [steps, Action.Under, s]
  have he : (run [] steps).2.get? "a" = some e := by
    rfl
  have hnone : e.unresolved = [] := by
    rfl
  obtain ⟨-, hvalidate, hevaluate⟩ := run_checked steps hsteps "a" e he
  exact ⟨hsteps, he, hnone, hvalidate (by decide), (hevaluate hnone).2.1 (by decide)⟩

end Reckon
