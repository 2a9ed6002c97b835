import Reckon.Proofs.Nesting
import Reckon.Proofs.Replacement

/-! What rows look like: values with an operator between any two of them, and functions in front of
values. There are two readings. Where an operator makes a row ready to start anew, a function may
stand in front of every value; where it only makes it ready for a value, none but the first has
one. The check is for the second. -/
namespace Reckon.Formula
open Outcome
variable {after p : Place} {limit limit' : Int} {depth : Nat}

/-- The rest of a row at `p`, and all groups in it, where an operator leads to `after`. -/
def Fits (after : Place) : Place → Formula → Prop
  | p, nil => p = .afterValue
  | p, atom (.function _) rest => p = .start ∧ Fits after .afterOperator rest
  | p, atom (.binary _) rest => p = .afterValue ∧ Fits after after rest
  | p, atom (.number _) rest => p ≠ .afterValue ∧ Fits after .afterValue rest
  | p, atom (.unknown _) rest => p ≠ .afterValue ∧ Fits after .afterValue rest
  | p, group inner rest =>
    p ≠ .afterValue ∧ Fits after .start inner ∧ Fits after .afterValue rest

def groups : Formula → List Formula
  | nil => []
  | atom _ rest => rest.groups
  | group inner rest => inner :: (inner.groups ++ rest.groups)

/-! What is put in for an unknown is a value like the unknown, so rows keep their shape. -/

theorem fits_replace {σ : Assignment}
    (hσ : ∀ name inner, σ name = some (.group inner) → inner.Fits after .start) {f : Formula} :
    (f.replace σ).Fits after p ↔ f.Fits after p := by
  induction f generalizing p with
  | nil => exact Iff.rfl
  | atom a rest ih =>
    cases a with
    | unknown name =>
      cases h : σ name with
      | none => rw [replace_unknown_stays h, Fits, Fits, ih]
      | some e =>
        rw [replace_unknown_found h]
        cases e with
        | number x => rw [Entry.onto, Fits, Fits, ih]
        | group inner => simp only [Entry.onto, Fits, ih, hσ name inner h, true_and]
    | number x => exact and_congr Iff.rfl ih
    | binary op => exact and_congr Iff.rfl ih
    | function g => exact and_congr Iff.rfl ih
  | group inner rest ih₁ ih₂ => rw [replace_group, Fits, Fits, ih₁, ih₂]

theorem fits_replace_numeric {σ : Assignment} (hσ : σ.Numeric) {f : Formula} :
    (f.replace σ).Fits after p ↔ f.Fits after p :=
  fits_replace fun name inner h => absurd h (hσ name inner)

/-! The check accepts what fits and has room. -/

theorem check_eq_ok {f : Formula} {index : Nat} :
    f.check limit depth p index = .ok () ↔ f.Fits .afterOperator p ∧ Within limit depth f := by
  induction f generalizing depth p index with
  | nil => cases p <;> simp [check, Fits]
  | atom a rest ih => cases a <;> cases p <;> simp [check, Place.step, Fits, ih]
  | group inner rest ih₁ ih₂ =>
    rw [within_group, Fits]
    by_cases hl : (depth : Int) < limit
    · have hl' : ¬ limit ≤ (depth : Int) := Int.not_le.2 hl
      cases p with
      | start => simp [check, Place.step, hl', hl, bind_eq_ok, ih₁, ih₂]; grind
      | afterOperator => simp [check, Place.step, hl', hl, bind_eq_ok, ih₁, ih₂]; grind
      | afterValue => simp [check, Place.step]
    · have hl' : limit ≤ (depth : Int) := Int.not_lt.1 hl
      cases p <;> simp [check, Place.step, hl', hl]

theorem check_of_le (h : limit ≤ limit') (depth : Nat) (p : Place) (index : Nat) (f : Formula) :
    StopsOr limit (f.check limit depth p index) (f.check limit' depth p index) := by
  induction f generalizing depth p index with
  | nil => exact .rfl
  | atom a rest ih =>
    simp only [check]
    cases p.step (.atom a) with
    | none => exact .rfl
    | some q => exact ih depth q (index + 1)
  | group inner rest ih₁ ih₂ =>
    simp only [check]
    cases p.step .group with
    | none => exact .rfl
    | some q =>
      by_cases hl : limit ≤ (depth : Int)
      · exact .inl (if_pos hl)
      · have hl' : ¬ limit' ≤ (depth : Int) := by omega
        simp only [if_neg hl, if_neg hl']
        exact (ih₁ (depth + 1) .start 0).bind fun _ => ih₂ depth q (index + 1)

theorem validate_eq_ok {f : Formula} :
    f.validate limit = .ok () ↔ f.Fits .afterOperator .start ∧ f.depth ≤ limit.toNat := by
  rw [validate, check_eq_ok, within_top]

theorem validate_of_fits {f : Formula} (h : f.Fits .afterOperator .start) :
    f.validate limit =
      if f.depth ≤ limit.toNat then .ok () else .error (.tooDeep limit) := by
  split
  · next hd => exact validate_eq_ok.2 ⟨h, hd⟩
  · next hd =>
    obtain ⟨high, hle, hw⟩ := exists_within 0 f limit
    have hhigh : f.check high 0 .start 0 = .ok () := check_eq_ok.2 ⟨h, hw⟩
    refine (check_of_le hle 0 .start 0 f).resolve_right fun he => ?_
    exact hd (validate_eq_ok.1 (he.trans hhigh)).2

end Reckon.Formula
