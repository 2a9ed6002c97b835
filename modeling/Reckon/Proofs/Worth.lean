import Reckon.Proofs.Chains

/-! Which formulas have a value, and which value it is, told from the groups alone. In each group
operands and operators take turns, and an operand is a number or a group with a function in front of
it or without; the group is worth the chain of its operands. -/
namespace Reckon

/-! The shape of a row, as it is written. -/

namespace Item

inductive IsValue : Item → Prop where
  | number (x : Float) : IsValue (.atom (.number x))
  | group : IsValue .group

/-- `[function] value` -/
inductive IsOperand : List Item → Prop where
  | plain {v : Item} : v.IsValue → IsOperand [v]
  | applied (f : Elementary) {v : Item} : v.IsValue → IsOperand [.atom (.function f), v]

/-- `operand (operator operand)*` -/
inductive Alternate : List Item → Prop where
  | lone {u : List Item} : IsOperand u → Alternate u
  | joined {u w : List Item} (op : Binary) : IsOperand u → Alternate w →
      Alternate (u ++ .atom (.binary op) :: w)

variable {p : Place} {u w items : List Item}

def Fits : Place → List Item → Prop
  | p, [] => p = .afterValue
  | p, .atom (.function _) :: rest => p = .start ∧ Fits .afterOperator rest
  | p, .atom (.binary _) :: rest => p = .afterValue ∧ Fits .start rest
  | p, .atom (.number _) :: rest => p ≠ .afterValue ∧ Fits .afterValue rest
  | _, .atom (.unknown _) :: _ => False
  | p, .group :: rest => p ≠ .afterValue ∧ Fits .afterValue rest

theorem IsValue.fits_cons {v : Item} (h : v.IsValue) :
    Fits p (v :: items) ↔ p ≠ .afterValue ∧ Fits .afterValue items := by
  cases h with
  | number x => rfl
  | group => rfl

theorem IsOperand.fits_append (h : IsOperand u) (hw : Fits .afterValue w) :
    Fits .start (u ++ w) := by
  cases h with
  | plain hv => exact hv.fits_cons.2 ⟨by decide, hw⟩
  | applied f hv => exact ⟨rfl, hv.fits_cons.2 ⟨by decide, hw⟩⟩

theorem Alternate.fits (h : Alternate items) : Fits .start items := by
  induction h with
  | @lone u hu =>
    rw [← List.append_nil u]
    exact hu.fits_append rfl
  | joined op hu _ ih => exact hu.fits_append ⟨rfl, ih⟩

def Completes : Place → List Item → Prop
  | .start, w => Alternate w
  | .afterOperator, w => ∀ f, Alternate (.atom (.function f) :: w)
  | .afterValue, w => ∀ u, IsOperand u → Alternate (u ++ w)

theorem Completes.value {v : Item} (h : Completes .afterValue w) (hv : v.IsValue)
    (hp : p ≠ .afterValue) : Completes p (v :: w) := by
  cases p with
  | start => exact h [v] (.plain hv)
  | afterOperator => exact fun f => h [.atom (.function f), v] (.applied f hv)
  | afterValue => exact absurd rfl hp

theorem Fits.completes (h : Fits p items) : Completes p items := by
  induction items generalizing p with
  | nil =>
    obtain rfl := h
    intro u hu
    rw [List.append_nil]
    exact .lone hu
  | cons item items ih =>
    cases item with
    | group => exact (ih h.2).value .group h.1
    | atom a =>
      cases a with
      | number x => exact (ih h.2).value (.number x) h.1
      | unknown name => exact h.elim
      | binary op =>
        obtain ⟨rfl, hrest⟩ := h
        exact fun u hu => .joined op hu (ih hrest)
      | function f =>
        obtain ⟨rfl, hrest⟩ := h
        exact ih hrest f

theorem alternate_iff_fits : Alternate items ↔ Fits .start items := by
  constructor
  · exact Alternate.fits
  · exact Fits.completes

end Item

namespace Formula
variable {p : Place}

theorem fits_iff_items (f : Formula) (p : Place) :
    f.Fits .start p ∧ f.unknowns = [] ↔
      Item.Fits p f.items ∧ ∀ row ∈ f.groups, Item.Fits .start row.items := by
  induction f generalizing p with
  | nil => simp [Fits, unknowns, items, Item.Fits, groups]
  | atom a rest ih =>
    cases a with
    | number x => simp only [Fits, unknowns, items, Item.Fits, groups, and_assoc, ih]
    | unknown name => simp [unknowns, items, Item.Fits]
    | binary op => simp only [Fits, unknowns, items, Item.Fits, groups, and_assoc, ih]
    | function g => simp only [Fits, unknowns, items, Item.Fits, groups, and_assoc, ih]
  | group inner rest ih₁ ih₂ =>
    have h₁ := ih₁ .start
    have h₂ := ih₂ .afterValue
    simp only [Fits, unknowns, items, Item.Fits, groups, List.append_eq_nil_iff, List.mem_cons,
      List.mem_append]
    grind

theorem fits_iff_alternate (f : Formula) :
    f.Fits .start .start ∧ f.unknowns = [] ↔
      ∀ row ∈ f :: f.groups, Item.Alternate row.items := by
  simp only [fits_iff_items, Item.alternate_iff_fits, List.forall_mem_cons]

end Formula

/-! Rows that are chains. -/

inductive Operand : List Atom → Float → Prop where
  | plain (x : Float) : Operand [.number x] x
  | applied (f : Elementary) (x : Float) : Operand [.function f, .number x] (f.apply x)

inductive Operands : List Atom → Chain Float → Prop where
  | lone {as : List Atom} {x : Float} : Operand as x → Operands as ⟨x, []⟩
  | joined {as bs : List Atom} {x y : Float} {more : List (Binary × Float)} (op : Binary) :
      Operand as x → Operands bs ⟨y, more⟩ →
        Operands (as ++ .binary op :: bs) ⟨x, (op, y) :: more⟩

section
open Outcome Formula
variable {as bs : List Atom} {c : Chain Float} {x y : Float}

theorem Operand.applyFunctions (h : Operand as x) (rest : List Atom) :
    Reckon.applyFunctions (as ++ rest) = (Reckon.applyFunctions rest).map (.number x :: ·) := by
  cases h with
  | plain x => rfl
  | applied f x => rfl

theorem Operands.applyFunctions (h : Operands as c) : Reckon.applyFunctions as = .ok c.row := by
  induction h with
  | @lone as x h =>
    rw [← List.append_nil as, h.applyFunctions]
    rfl
  | @joined as bs x y more op h _ ih =>
    have hop : Reckon.applyFunctions (.binary op :: bs) =
        (Reckon.applyFunctions bs).map (.binary op :: ·) := rfl
    rw [h.applyFunctions, hop, ih]
    rfl

theorem Operands.ne_nil (h : Operands as c) : as ≠ [] := by
  cases h with
  | lone h => cases h <;> simp
  | joined op h _ => simp

theorem Operands.reduce (h : Operands as c) : reduce as = .ok c.value := by
  refine reduce_eq_ok.2 ⟨h.ne_nil, _, _, _, h.applyFunctions, c.applyTier_row 0,
    Chain.applyTier_row 1 _, ?_⟩
  rw [Chain.applyTier_row, Chain.foldRuns_last]
  rfl

theorem exists_operand (h : Item.IsOperand (as.map .atom)) : ∃ x, Operand as x := by
  generalize hu : as.map Item.atom = u at h
  cases h with
  | plain hv =>
    obtain ⟨a, rfl, ha⟩ := List.map_eq_singleton_iff.1 hu
    cases hv <;> cases ha
    exact ⟨_, .plain _⟩
  | applied f hv =>
    obtain ⟨a, bs, rfl, ha, hbs⟩ := List.map_eq_cons_iff.1 hu
    obtain ⟨b, rfl, hb⟩ := List.map_eq_singleton_iff.1 hbs
    cases ha
    cases hv <;> cases hb
    exact ⟨_, .applied _ _⟩

theorem exists_operands (h : Item.Alternate (as.map .atom)) : ∃ c, Operands as c := by
  generalize hu : as.map Item.atom = u at h
  induction h generalizing as with
  | lone h =>
    subst hu
    obtain ⟨x, hx⟩ := exists_operand h
    exact ⟨_, .lone hx⟩
  | joined op h _ ih =>
    obtain ⟨us, ws, rfl, rfl, hws⟩ := List.map_eq_append_iff.1 hu
    obtain ⟨b, bs, rfl, hb, hbs⟩ := List.map_eq_cons_iff.1 hws
    cases hb
    obtain ⟨x, hx⟩ := exists_operand h
    obtain ⟨⟨y, more⟩, hmore⟩ := ih hbs
    exact ⟨_, .joined op hx hmore⟩

theorem items_ofAtoms (as : List Atom) : (ofAtoms as).items = as.map .atom := by
  induction as with
  | nil => rfl
  | cons a as ih => rw [ofAtoms, items, ih, List.map_cons]

theorem unknowns_ofAtoms_eq_nil (h : ∀ name, .unknown name ∉ as) :
    (ofAtoms as).unknowns = [] := by
  induction as with
  | nil => rfl
  | cons a as ih =>
    have hrest := ih fun name hn => h name (List.mem_cons_of_mem _ hn)
    cases a with
    | unknown name => exact absurd List.mem_cons_self (h name)
    | number x => exact hrest
    | binary op => exact hrest
    | function f => exact hrest

theorem reduce_eq_ok_iff_operands :
    reduce as = .ok x ↔ ∃ c, Operands as c ∧ c.value = x := by
  constructor
  · intro h
    have hshape := (fits_iff_alternate (ofAtoms as)).1
      ⟨fits_of_reduce h, unknowns_ofAtoms_eq_nil (unknown_not_mem_of_reduce h)⟩
    have hrow := hshape (ofAtoms as) List.mem_cons_self
    rw [items_ofAtoms] at hrow
    obtain ⟨c, hc⟩ := exists_operands hrow
    have hsame := hc.reduce.symm.trans h
    exact ⟨c, hc, Except.ok.inj hsame⟩
  · intro h
    obtain ⟨c, hc, rfl⟩ := h
    exact hc.reduce

end

namespace Formula
open Outcome
variable {limit : Int} {depth : Nat} {f : Formula} {as : List Atom} {x : Float}

/-- The row with its groups evaluated, each of them on its own. -/
inductive Settled : Formula → List Atom → Prop where
  | nil : Settled nil []
  | atom (a : Atom) {rest : Formula} {as : List Atom} :
      Settled rest as → Settled (atom a rest) (a :: as)
  | group {inner rest : Formula} {us as : List Atom} {c : Chain Float} :
      Settled inner us → Operands us c → Settled rest as →
        Settled (group inner rest) (.number c.value :: as)

/-- What a formula is worth, whatever the limit. -/
def Worth (f : Formula) (x : Float) : Prop := ∃ as c, f.Settled as ∧ Operands as c ∧ c.value = x

theorem settle_eq_ok_iff_settled :
    settle limit depth f = .ok as ↔ f.Settled as ∧ Within limit depth f := by
  induction f generalizing depth as with
  | nil =>
    constructor
    · intro h
      cases h
      exact ⟨.nil, within_nil⟩
    · intro h
      cases h.1
      rfl
  | atom a rest ih =>
    rw [settle_atom, map_eq_ok, within_atom]
    constructor
    · intro h
      obtain ⟨vs, hvs, rfl⟩ := h
      obtain ⟨hsettled, hw⟩ := ih.1 hvs
      exact ⟨.atom a hsettled, hw⟩
    · intro h
      obtain ⟨hsettled, hw⟩ := h
      cases hsettled with
      | atom _ hrest => exact ⟨_, ih.2 ⟨hrest, hw⟩, rfl⟩
  | group inner rest ih₁ ih₂ =>
    rw [settle_group_eq_ok, within_group]
    constructor
    · intro h
      obtain ⟨hd, us, x, vs, hus, hx, hvs, rfl⟩ := h
      obtain ⟨hinner, hw₁⟩ := ih₁.1 hus
      obtain ⟨hrest, hw₂⟩ := ih₂.1 hvs
      obtain ⟨c, hc, rfl⟩ := reduce_eq_ok_iff_operands.1 hx
      exact ⟨.group hinner hc hrest, hd, hw₁, hw₂⟩
    · intro h
      obtain ⟨hsettled, hd, hw₁, hw₂⟩ := h
      cases hsettled with
      | group hinner hc hrest =>
        exact ⟨hd, _, _, _, ih₁.2 ⟨hinner, hw₁⟩, hc.reduce, ih₂.2 ⟨hrest, hw₂⟩, rfl⟩

theorem evaluate_eq_ok_iff_worth :
    f.evaluate limit = .ok x ↔ f.Worth x ∧ f.depth ≤ limit.toNat := by
  simp only [evaluate_eq_ok, settle_eq_ok_iff_settled, reduce_eq_ok_iff_operands, within_top]
  constructor
  · intro h
    obtain ⟨as, ⟨hsettled, hd⟩, c, hc, hx⟩ := h
    exact ⟨⟨as, c, hsettled, hc, hx⟩, hd⟩
  · intro h
    obtain ⟨⟨as, c, hsettled, hc, hx⟩, hd⟩ := h
    exact ⟨as, ⟨hsettled, hd⟩, c, hc, hx⟩

/-- A formula has a value where there is nothing unknown in it, where there is room for its groups
and where operands and operators alternate in each of its rows; and then the value is what it is
worth, and nothing else is. -/
theorem evaluate_iff_alternate (limit : Int) (f : Formula) :
    ((∃ x, f.evaluate limit = .ok x) ↔ f.unknowns = [] ∧ (f.depth : Int) ≤ max limit 0 ∧
      ∀ row ∈ f :: f.groups, Item.Alternate row.items) ∧
    ∀ x, f.evaluate limit = .ok x → ∀ y, f.Worth y ↔ y = x := by
  have hroom : (f.depth : Int) ≤ max limit 0 ↔ f.depth ≤ limit.toNat := by omega
  constructor
  · rw [exists_evaluate_eq_ok, hroom, ← fits_iff_alternate]
    constructor
    · intro h
      obtain ⟨hfits, hnone, hdepth⟩ := h
      exact ⟨hnone, hdepth, hfits, hnone⟩
    · intro h
      obtain ⟨hnone, hdepth, hfits, -⟩ := h
      exact ⟨hfits, hnone, hdepth⟩
  · intro x hx y
    obtain ⟨hworth, hdepth⟩ := evaluate_eq_ok_iff_worth.1 hx
    constructor
    · intro hy
      have hsame := (evaluate_eq_ok_iff_worth.2 ⟨hy, hdepth⟩).symm.trans hx
      exact Except.ok.inj hsame
    · intro hy
      rwa [hy]

/-- `2 root (9) - sin (-1) * 3`, which no text is read as: it has a value where there is room for
its groups, and then roots go first and the difference last. -/
theorem evaluate_root_less_product :
    let f := atom (.number 2) (atom (.binary .root) (group (atom (.number 9) nil)
      (atom (.binary .subtract) (atom (.function .sin) (group (atom (.number (-1)) nil)
        (atom (.binary .multiply) (atom (.number 3) nil)))))))
    let x := Binary.subtract.apply (Binary.root.apply 2 9)
      (Binary.multiply.apply (Elementary.sin.apply (-1)) 3)
    f.evaluate 1 = .ok x ∧ f.Worth x ∧ (∀ row ∈ f :: f.groups, Item.Alternate row.items) ∧
      ¬ ∃ y, f.evaluate 0 = .ok y := by
  intro f x
  have hvalue : f.evaluate 1 = .ok x := rfl
  have hdepth : ¬ (f.depth : Int) ≤ max 0 0 := by decide
  have hshape := (evaluate_iff_alternate 1 f).1.1 ⟨x, hvalue⟩
  refine ⟨hvalue, ((evaluate_iff_alternate 1 f).2 x hvalue x).2 rfl, hshape.2.2, fun hdeep => ?_⟩
  exact hdepth ((evaluate_iff_alternate 0 f).1.1 hdeep).2.1

end Formula
end Reckon
