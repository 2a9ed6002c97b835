import Reckon.Proofs.Meaning

/-! The check and evaluation take the same formulas to be well formed, but for functions: evaluation
lets them stand in front of any value, the check at the front of a row only. -/
namespace Reckon
open Outcome

def FunctionFree (items : List Item) : Prop := ∀ g, .atom (.function g) ∉ items

section
variable {items : List Item}

@[simp] theorem functionFree_nil : FunctionFree [] := by
  intro g h
  cases h

@[simp] theorem functionFree_cons {item : Item} :
    FunctionFree (item :: items) ↔ (∀ g, item ≠ .atom (.function g)) ∧ FunctionFree items := by
  simp only [FunctionFree, List.mem_cons, not_or, forall_and, ne_comm]

end

namespace Formula
variable {limit : Int} {p q : Place}

def GroupsLead (f : Formula) : Prop := ∀ row ∈ f.groups, FunctionFree row.items.tail

/-- No function stands behind the first item, neither in the row itself nor in a group. -/
def FunctionsLead (f : Formula) : Prop := ∀ row ∈ f :: f.groups, FunctionFree row.items.tail

theorem functionsLead_iff {f : Formula} :
    f.FunctionsLead ↔ FunctionFree f.items.tail ∧ f.GroupsLead := by
  simp only [FunctionsLead, GroupsLead, List.mem_cons, forall_eq_or_imp]

theorem groupsLead_group {inner rest : Formula} :
    (group inner rest).GroupsLead ↔
      (FunctionFree inner.items.tail ∧ inner.GroupsLead) ∧ rest.GroupsLead := by
  simp only [GroupsLead, groups, List.mem_cons, List.mem_append]
  grind

/-- Behind the first item of a row the two readings differ in functions only: what a row at `p` is
ready for by the one, it is ready for at `q` by the other. At the front they differ in nothing. -/
theorem fits_two_readings (f : Formula) :
    (∀ p q, p ≠ .start → (q = .afterValue ↔ p = .afterValue) →
      (f.Fits .afterOperator p ↔ f.Fits .start q ∧ FunctionFree f.items ∧ f.GroupsLead)) ∧
    (f.Fits .afterOperator .start ↔
      f.Fits .start .start ∧ FunctionFree f.items.tail ∧ f.GroupsLead) := by
  induction f with
  | nil =>
    constructor
    · intro p q hp hq
      simp [Fits, items, GroupsLead, groups, hq]
    · simp [Fits]
  | atom a rest ih =>
    have hgroups : (atom a rest).GroupsLead ↔ rest.GroupsLead := Iff.rfl
    have hvalue := ih.1 .afterValue .afterValue (by decide) Iff.rfl
    have hoperator := ih.1 .afterOperator .start (by decide) (by decide)
    have hfunction := ih.1 .afterOperator .afterOperator (by decide) (by decide)
    constructor
    · intro p q hp hq
      cases a <;> simp [Fits, items, hgroups, hvalue, hoperator, hp, hq, and_assoc]
    · cases a <;> simp [Fits, items, hgroups, hvalue, hfunction]
  | group inner rest ih₁ ih₂ =>
    have hrest := ih₂.1 .afterValue .afterValue (by decide) Iff.rfl
    constructor
    · intro p q hp hq
      simp only [Fits, items, groupsLead_group, functionFree_cons, ih₁.2, hrest, ne_eq, hq]
      grind
    · simp only [Fits, items, groupsLead_group, List.tail_cons, ih₁.2, hrest]
      grind

theorem fits_afterOperator_iff (f : Formula) :
    f.Fits .afterOperator .start ↔ f.Fits .start .start ∧ f.FunctionsLead := by
  rw [functionsLead_iff]
  exact (fits_two_readings f).2

/-- Whatever the unknowns stand for, it is the same formulas that have a value, and those that pass
the check are among them. -/
theorem validate_iff_evaluates (limit : Int) (f : Formula) :
    (f.validate limit = .ok () ↔
      (∀ ν, ∃ x, (f.replace (.ofValues ν)).evaluate limit = .ok x) ∧ f.FunctionsLead) ∧
    (∀ ν μ, (∃ x, (f.replace (.ofValues ν)).evaluate limit = .ok x) →
      ∃ x, (f.replace (.ofValues μ)).evaluate limit = .ok x) ∧
    (f.validate limit = .ok () → f.unknowns = [] → ∃ x, f.evaluate limit = .ok x) := by
  have hnumbers : ∀ ν, (∃ x, (f.replace (.ofValues ν)).evaluate limit = .ok x) ↔
      f.Fits .start .start ∧ f.depth ≤ limit.toNat := exists_evaluate_replace_ofValues
  refine ⟨?_, ?_, ?_⟩
  · rw [validate_eq_ok, fits_afterOperator_iff]
    constructor
    · intro h
      obtain ⟨⟨hfit, hlead⟩, hdepth⟩ := h
      exact ⟨fun ν => (hnumbers ν).2 ⟨hfit, hdepth⟩, hlead⟩
    · intro h
      obtain ⟨hvalue, hlead⟩ := h
      obtain ⟨hfit, hdepth⟩ := (hnumbers fun _ => 0).1 (hvalue _)
      exact ⟨⟨hfit, hlead⟩, hdepth⟩
  · intro ν μ hν
    exact (hnumbers μ).2 ((hnumbers ν).1 hν)
  · intro hvalid hnone
    obtain ⟨hfits, hdepth⟩ := validate_eq_ok.1 hvalid
    exact exists_evaluate_eq_ok.2 ⟨((fits_afterOperator_iff f).1 hfits).1, hnone, hdepth⟩

end Formula
end Reckon
