import Reckon.Formula.Rendered
import Reckon.Proofs.Nesting
import Reckon.Proofs.Replacement

/-! An unknown bound to a formula counts for as much as one bound to the value of that formula, as
long as there is room for the formula wherever it is put. -/
namespace Reckon.Formula
open Outcome
variable {limit own : Int} {name : String}

theorem bindFormula_self (rest b : Formula) (name : String) :
    (atom (.unknown name) rest).bindFormula name b = group b (rest.bindFormula name b) :=
  replace_unknown_found (Assignment.single_self name _) rest

theorem bind_self (rest : Formula) (name : String) (v : Float) :
    (atom (.unknown name) rest).bind name v = atom (.number v) (rest.bind name v) :=
  replace_unknown_found (Assignment.single_self name _) rest

theorem mem_rows_atom {depth k : Nat} {item : Item} {a : Atom} {rest : Formula} :
    (k, item) ∈ (atom a rest).rows depth ↔
      (k = depth ∧ item = .atom a) ∨ (k, item) ∈ rest.rows depth := by
  simp [rows]

theorem mem_rows_group {depth k : Nat} {item : Item} {inner rest : Formula} :
    (k, item) ∈ (group inner rest).rows depth ↔ (k = depth ∧ item = .group) ∨
      (k, item) ∈ inner.rows (depth + 1) ∨ (k, item) ∈ rest.rows depth := by
  simp [rows]

theorem mem_unknowns_iff_rows {f : Formula} (depth : Nat) :
    name ∈ f.unknowns ↔ ∃ k, (k, .atom (.unknown name)) ∈ f.rows depth := by
  induction f generalizing depth with
  | nil => simp [unknowns, rows]
  | atom a rest ih =>
    rw [unknowns_atom, List.mem_append, ih depth]
    simp only [mem_rows_atom, exists_or]
    refine or_congr ?_ Iff.rfl
    cases a <;> simp
  | group inner rest ih₁ ih₂ =>
    rw [unknowns, List.mem_append, ih₁ (depth + 1), ih₂ depth]
    simp only [mem_rows_group, exists_or]
    simp

theorem settle_bindFormula {b : Formula} {v : Float} (hb : b.evaluate own = .ok v)
    (a : Formula) (depth : Nat)
    (hroom : ∀ k, (k, .atom (.unknown name)) ∈ a.rows depth → (k : Int) + 1 + b.depth ≤ limit) :
    settle limit depth (a.bindFormula name b) = settle limit depth (a.bind name v) := by
  induction a generalizing depth with
  | nil => rfl
  | atom c rest ih =>
    have hrest := ih depth fun k hk => hroom k (mem_rows_atom.2 (.inr hk))
    obtain rfl | hc := c.eq_unknown_or_stays name
    · have hd := hroom depth (mem_rows_atom.2 (.inl ⟨rfl, rfl⟩))
      obtain ⟨us, hus, hv⟩ := evaluate_eq_ok.1 hb
      have hw : Within limit (depth + 1) b := by
        unfold Within
        omega
      rw [bindFormula_self, bind_self, settle_group (by omega), settle_atom,
        settle_of_within hus hw, ok_bind, hv, ok_bind, hrest]
    · have hf : (atom c rest).bindFormula name b = atom c (rest.bindFormula name b) :=
        replace_stays (hc _) rest
      have hn : (atom c rest).bind name v = atom c (rest.bind name v) := replace_stays (hc _) rest
      rw [hf, hn, settle_atom, settle_atom, hrest]
  | group inner rest ih₁ ih₂ =>
    have hinner := ih₁ (depth + 1) fun k hk => hroom k (mem_rows_group.2 (.inr (.inl hk)))
    have hrest := ih₂ depth fun k hk => hroom k (mem_rows_group.2 (.inr (.inr hk)))
    have hf : (group inner rest).bindFormula name b =
        group (inner.bindFormula name b) (rest.bindFormula name b) := rfl
    have hn : (group inner rest).bind name v = group (inner.bind name v) (rest.bind name v) := rfl
    rw [hf, hn]
    by_cases hl : (depth : Int) < limit
    · rw [settle_group hl, settle_group hl, hinner, hrest]
    · rw [settle_group_deep (Int.not_lt.1 hl), settle_group_deep (Int.not_lt.1 hl)]

/-- Each formula put in lies as deep as what it took the place of, and is a group itself. -/
theorem depth_bindFormula (b a : Formula) {depth k : Nat}
    (h : (k, .atom (.unknown name)) ∈ a.rows depth) :
    k + 1 + b.depth ≤ depth + (a.bindFormula name b).depth := by
  induction a generalizing depth with
  | nil => cases h
  | atom c rest ih =>
    obtain rfl | hc := c.eq_unknown_or_stays name
    · rw [bindFormula_self, Formula.depth]
      obtain ⟨rfl, -⟩ | h := mem_rows_atom.1 h
      · omega
      · have := ih h
        omega
    · have hf : (atom c rest).bindFormula name b = atom c (rest.bindFormula name b) :=
        replace_stays (hc _) rest
      obtain ⟨-, hi⟩ | h := mem_rows_atom.1 h
      · cases hi
        have := hc (.group b)
        rw [Atom.replacement?, Assignment.single_self] at this
        cases this
      · rw [hf]
        exact ih h
  | group inner rest ih₁ ih₂ =>
    have hf : ((group inner rest).bindFormula name b).depth =
        max ((inner.bindFormula name b).depth + 1) (rest.bindFormula name b).depth := rfl
    rw [hf]
    obtain ⟨-, hi⟩ | h | h := mem_rows_group.1 h
    · cases hi
    · have := ih₁ h
      omega
    · have := ih₂ h
      omega

/-- That `b` has a value says that nothing is unknown in it; its own limit is of no further
interest. -/
theorem evaluate_bindFormula (a b : Formula) (name : String) (limit own : Int) (v : Float)
    (hb : b.evaluate own = .ok v) :
    ((∀ k, (k, .atom (.unknown name)) ∈ a.rows 0 → (k : Int) + 1 + b.depth ≤ limit) →
      (a.bindFormula name b).evaluate limit = (a.bind name v).evaluate limit) ∧
    ((∃ k, (k, .atom (.unknown name)) ∈ a.rows 0 ∧ limit < (k : Int) + 1 + b.depth) →
      ∀ x, (a.bindFormula name b).evaluate limit ≠ .ok x) := by
  constructor
  · intro hroom
    simp only [evaluate, settle_bindFormula hb a 0 hroom]
  · intro hdeeper x hx
    obtain ⟨k, hk, hlimit⟩ := hdeeper
    have hdeep := depth_bindFormula b a hk
    have hle := depth_le_of_evaluate hx
    omega

/-- `x + (x)` with `2 * (3)` for `x`: the limit 3 leaves room for both, the limit 2 for one. -/
theorem evaluate_sum_of_products :
    let a := atom (.unknown "x") (atom (.binary .add) (group (atom (.unknown "x") nil) nil))
    let b := atom (.number 2) (atom (.binary .multiply) (group (atom (.number 3) nil) nil))
    b.evaluate 1 = .ok (2 * 3) ∧
      (a.bindFormula "x" b).evaluate 3 = (a.bind "x" (2 * 3)).evaluate 3 ∧
      ∀ x, (a.bindFormula "x" b).evaluate 2 ≠ .ok x := by
  intro a b
  have hb : b.evaluate 1 = .ok (2 * 3) := rfl
  have hdepth : b.depth = 1 := rfl
  have hroom : ∀ k, (k, .atom (.unknown "x")) ∈ a.rows 0 → (k : Int) + 1 + b.depth ≤ 3 := by
    intro k hk
    have hk' : k = 0 ∨ k = 1 := by simpa [a, rows] using hk
    omega
  have hsecond : (1, .atom (.unknown "x")) ∈ a.rows 0 := by simp [a, rows]
  exact ⟨hb, (evaluate_bindFormula a b "x" 3 1 (2 * 3) hb).1 hroom,
    (evaluate_bindFormula a b "x" 2 1 (2 * 3) hb).2 ⟨1, hsecond, by omega⟩⟩

end Reckon.Formula
