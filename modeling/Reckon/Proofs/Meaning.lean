import Reckon.Proofs.Grammar
import Reckon.Proofs.Row

/-! The value of a sum is what evaluation comes to. The passes over a row are followed level by
level: after each pass the phrases of one more level have given way to their values. -/
namespace Reckon

namespace Phrase
open Outcome
variable {n : Nat} {ν : String → Float}

/-- The row in which the phrases up to level `k` have given way to their values. -/
def row (ν : String → Float) (k : Nat) : {n : Nat} → Phrase n → List Atom
  | _, number x => [.number x]
  | _, unknown name => [.number (ν name)]
  | _, bracketed _ inner => [.number (inner.value ν)]
  | _, applied f argument =>
    if k = 0 then [.function f, .number (argument.value ν)]
    else [.number (f.apply (argument.value ν))]
  | _, lone p => row ν k p
  | n + 1, joined p op _ q =>
    if n + 1 ≤ k then [.number (op.apply (p.value ν) (q.value ν))]
    else row ν k p ++ .binary op :: row ν k q

theorem row_of_le (p : Phrase n) {k : Nat} (h : n ≤ k) : p.row ν k = [.number (p.value ν)] := by
  induction p with
  | number x => rfl
  | unknown name => rfl
  | bracketed b inner _ => rfl
  | applied f argument _ => exact if_neg (by omega)
  | lone p ih => exact ih (by omega)
  | joined p op ht q _ _ => exact if_pos h

theorem row_joined {k : Nat} (p : Phrase (n + 1)) (op : Binary) (ht : op.tier + 1 = n)
    (q : Phrase n) (h : k ≤ n) :
    (joined p op ht q).row ν k = p.row ν k ++ .binary op :: q.row ν k := if_neg (by omega)

theorem exists_row_eq_cons (ν : String → Float) (p : Phrase n) {k : Nat} (h : 1 ≤ k) :
    ∃ x as, p.row ν k = .number x :: as := by
  induction p with
  | number x => exact ⟨x, [], rfl⟩
  | unknown name => exact ⟨ν name, [], rfl⟩
  | bracketed b inner _ => exact ⟨inner.value ν, [], rfl⟩
  | applied f argument _ => exact ⟨_, [], if_neg (by omega)⟩
  | lone p ih => exact ih
  | @joined n p op ht q ih _ =>
    by_cases hk : k ≤ n
    · obtain ⟨x, as, hp⟩ := ih
      refine ⟨x, as ++ .binary op :: q.row ν k, ?_⟩
      rw [row_joined p op ht q hk, hp, List.cons_append]
    · exact ⟨_, [], row_of_le _ (by omega)⟩

theorem applyFunctions_row (ν : String → Float) (p : Phrase n) (rest : List Atom) :
    applyFunctions (p.row ν 0 ++ rest) = (applyFunctions rest).map (p.row ν 1 ++ ·) := by
  induction p generalizing rest with
  | number x => simp [row, applyFunctions]
  | unknown name => simp [row, applyFunctions]
  | bracketed b inner _ => simp [row, applyFunctions]
  | applied f argument _ => simp [row, applyFunctions]
  | lone p ih => exact ih rest
  | @joined n p op ht q ih₁ ih₂ =>
    rw [row_joined p op ht q (by omega), row_joined p op ht q (by omega), List.append_assoc, ih₁,
      List.cons_append, applyFunctions, ih₂]
    · cases applyFunctions rest <;> simp [Except.map]
    · simp

end Phrase

section
open Outcome
variable {tier : Nat} {op : Binary} {left : Option Atom}

theorem applyTier_same (h : op.tier = tier) (x y : Float) (rest : List Atom) :
    applyTier tier (some (.number x)) (.binary op :: .number y :: rest) =
      applyTier tier (some (.number (op.apply x y))) rest := by
  simp only [applyTier, h, if_true]

theorem applyTier_other (h : op.tier ≠ tier) (left : Option Atom) (rest : List Atom) :
    applyTier tier left (.binary op :: rest) =
      (applyTier tier (some (.binary op)) rest).map (left.toList ++ ·) := by
  rw [applyTier.eq_def]
  exact if_neg h

theorem applyTier_operand {a : Atom} (h : ∀ op, a ≠ .binary op) (left : Option Atom)
    (rest : List Atom) :
    applyTier tier left (a :: rest) = (applyTier tier (some a) rest).map (left.toList ++ ·) := by
  cases a with
  | number x => rfl
  | unknown name => rfl
  | binary op => exact absurd rfl (h op)
  | function f => rfl

theorem applyTier_first {a : Atom} (h : ∀ op, a ≠ .binary op) (rest : List Atom) :
    applyTier tier none (a :: rest) = applyTier tier (some a) rest := by
  rw [applyTier_operand h]
  cases applyTier tier (some a) rest with
  | error e => rfl
  | ok as => rfl

theorem applyTier_append (hop : op.tier ≠ tier) {as us bs vs : List Atom} {y : Float}
    (has : applyTier tier left as = .ok us)
    (hbs : applyTier tier none (.number y :: bs) = .ok vs) :
    applyTier tier left (as ++ .binary op :: .number y :: bs) = .ok (us ++ .binary op :: vs) := by
  have hnumber : ∀ op, Atom.number y ≠ .binary op := by simp
  have hright : applyTier tier (some (.number y)) bs = .ok vs := by
    rwa [applyTier_first hnumber] at hbs
  fun_induction applyTier tier left as generalizing us with
  | case1 left =>
    cases has
    rw [List.nil_append, applyTier_other hop, applyTier_operand hnumber, hright]
    rfl
  | case2 op' ht x z rest ih => rw [List.cons_append, List.cons_append, applyTier_same ht, ih has]
  | case3 op' ht a b rest hn => cases has
  | case4 op' ht left rest hn hs => cases has
  | case5 left op' rest ht ih =>
    obtain ⟨cs, hcs, rfl⟩ := map_eq_ok.1 has
    rw [List.cons_append, applyTier_other ht, ih hcs, map_ok, List.append_assoc]
  | case6 left a rest ha ih =>
    obtain ⟨cs, hcs, rfl⟩ := map_eq_ok.1 has
    rw [List.cons_append, applyTier_operand ha, ih hcs, map_ok, List.append_assoc]

end

namespace Phrase
open Outcome
variable {n tier : Nat} {ν : String → Float}

/-- A phrase whose own operators have their turn becomes the left operand of what follows. -/
theorem applyTier_row_of_level (ν : String → Float) (p : Phrase n) (hn : n = tier + 2)
    (rest : List Atom) :
    applyTier tier none (p.row ν (tier + 1) ++ rest) =
      applyTier tier (some (.number (p.value ν))) rest := by
  induction p generalizing rest with
  | number x => omega
  | unknown name => omega
  | bracketed b inner _ => omega
  | applied f argument _ => omega
  | lone p _ =>
    have hp : p.lone.row ν (tier + 1) = [.number (p.value ν)] := row_of_le p (by omega)
    rw [hp, List.singleton_append, applyTier_first (by simp)]
    rfl
  | joined p op ht q ih _ =>
    have hq : q.row ν (tier + 1) = [.number (q.value ν)] := row_of_le q (by omega)
    rw [row_joined p op ht q (by omega), hq, List.append_assoc, ih hn, List.cons_append,
      List.singleton_append, applyTier_same (by omega)]
    rfl

theorem applyTier_row (ν : String → Float) (p : Phrase n) (tier : Nat) :
    applyTier tier none (p.row ν (tier + 1)) = .ok (p.row ν (tier + 2)) := by
  have hlow : ∀ {m : Nat} (q : Phrase m), m ≤ tier + 2 →
      applyTier tier none (q.row ν (tier + 1)) = .ok (q.row ν (tier + 2)) := by
    intro m q hm
    rw [row_of_le q hm]
    obtain hlt | heq := Nat.lt_or_eq_of_le hm
    · rw [row_of_le q (by omega)]
      rfl
    · have h := applyTier_row_of_level ν q heq []
      rw [List.append_nil] at h
      rw [h]
      rfl
  induction p with
  | number x => exact hlow _ (by omega)
  | unknown name => exact hlow _ (by omega)
  | bracketed b inner _ => exact hlow _ (by omega)
  | applied f argument _ => exact hlow _ (by omega)
  | lone p ih => exact ih
  | @joined n p op ht q ih₁ ih₂ =>
    by_cases hn : n + 1 ≤ tier + 2
    · exact hlow _ hn
    · obtain ⟨y, bs, hq⟩ := exists_row_eq_cons ν q (Nat.le_add_left 1 tier)
      rw [hq] at ih₂
      rw [row_joined p op ht q (by omega), row_joined p op ht q (by omega), hq]
      exact applyTier_append (by omega) ih₁ ih₂

theorem reduce_row (ν : String → Float) (p : Sum) : reduce (p.row ν 0) = .ok (p.value ν) := by
  have hfunctions : applyFunctions (p.row ν 0) = .ok (p.row ν 1) := by
    have h := applyFunctions_row ν p []
    simpa [applyFunctions] using h
  have hlast : p.row ν 4 = [.number (p.value ν)] := row_of_le p (Nat.le_refl 4)
  refine reduce_eq_ok.2 ⟨?_, p.row ν 1, p.row ν 2, p.row ν 3, hfunctions, applyTier_row ν p 0,
    applyTier_row ν p 1, hlast ▸ applyTier_row ν p 2⟩
  intro hnil
  rw [hnil] at hfunctions
  obtain ⟨x, as, hrow⟩ := exists_row_eq_cons ν p (Nat.le_refl 1)
  rw [hrow] at hfunctions
  cases hfunctions

theorem settle_formula (ν : String → Float) (p : Phrase n) {limit : Int} {depth : Nat}
    (h : p.formula.Within limit depth) :
    (p.formula.replace (.ofValues ν)).settle limit depth = .ok (p.row ν 0) := by
  induction p generalizing depth with
  | number x => rfl
  | unknown name => rfl
  | bracketed b inner ih =>
    obtain ⟨hd, hinner, -⟩ := Formula.within_group.1 h
    rw [formula, Formula.replace_group, Formula.settle_group hd, ih hinner, ok_bind,
      reduce_row ν inner]
    rfl
  | applied f argument ih =>
    have hf : (applied f argument).formula.replace (.ofValues ν) =
        .atom (.function f) (argument.formula.replace (.ofValues ν)) := rfl
    rw [hf, Formula.settle_atom, ih h, row_of_le argument (Nat.le_refl 0)]
    rfl
  | lone p ih => exact ih h
  | @joined n p op ht q ih₁ ih₂ =>
    obtain ⟨hp, hq⟩ := Formula.within_append.1 h
    rw [formula, Formula.replace_append, Formula.settle_append, ih₁ hp, ok_bind,
      row_joined p op ht q (Nat.zero_le n)]
    have hop : (Formula.atom (.binary op) q.formula).replace (.ofValues ν) =
        .atom (.binary op) (q.formula.replace (.ofValues ν)) := rfl
    rw [hop, Formula.settle_atom, ih₂ (Formula.within_atom.1 hq)]
    rfl

/-- With room for its brackets, a sum is worth what it means. -/
theorem evaluate_formula (ν : String → Float) (p : Sum) {limit : Int}
    (h : p.depth ≤ limit.toNat) :
    (p.formula.replace (.ofValues ν)).evaluate limit = .ok (p.value ν) := by
  have hw : p.formula.Within limit 0 := by
    rw [Formula.within_top, depth_formula]
    exact h
  exact Formula.evaluate_eq_ok.2 ⟨p.row ν 0, settle_formula ν p hw, reduce_row ν p⟩

end Phrase

namespace Formula

theorem written_tokens (f : Formula) : f.Written f.tokens := by
  induction f with
  | nil => exact .nil
  | atom a rest ih => exact .atom ih
  | group inner rest ih₁ ih₂ => exact .group .round ih₁ ih₂

theorem exists_evaluate_eq_ok {limit : Int} {f : Formula} :
    (∃ x, f.evaluate limit = .ok x) ↔
      f.Fits .start .start ∧ f.unknowns = [] ∧ f.depth ≤ limit.toNat := by
  constructor
  · intro h
    obtain ⟨x, hx⟩ := h
    obtain ⟨hfit, hnone⟩ := fits_of_evaluate hx
    exact ⟨hfit, hnone, depth_le_of_evaluate hx⟩
  · intro h
    obtain ⟨hfit, hnone, hdepth⟩ := h
    obtain ⟨p, -, rfl⟩ := Phrase.exists_of_written f.written_tokens hfit
    rw [Phrase.depth_formula] at hdepth
    have hvalue := Phrase.evaluate_formula (fun _ => 0) p hdepth
    rw [replace_of_unknowns_eq_nil hnone] at hvalue
    exact ⟨_, hvalue⟩

theorem exists_evaluate_replace_ofValues {limit : Int} {f : Formula} (ν : String → Float) :
    (∃ x, (f.replace (.ofValues ν)).evaluate limit = .ok x) ↔
      f.Fits .start .start ∧ f.depth ≤ limit.toNat := by
  have hnumeric := Assignment.numeric_ofValues ν
  simp [exists_evaluate_eq_ok, fits_replace_numeric hnumeric, unknowns_replace_ofValues,
    depth_replace_numeric hnumeric]

end Formula
end Reckon
