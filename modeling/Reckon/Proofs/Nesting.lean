import Reckon.Formula.Validity
import Reckon.Formula.Value
import Reckon.Proofs.Outcome

/-! How deep groups nest. A limit does nothing but stop at the first group that lies too deep: a
formula within its limit has the value it has within any other, and passes the same check. -/
namespace Reckon.Formula
open Outcome
variable {limit limit' : Int} {depth depth' : Nat}

def Within (limit : Int) (depth : Nat) (f : Formula) : Prop := f.depth ≤ (limit - depth).toNat

@[simp] theorem within_nil : Within limit depth nil := Nat.zero_le _

@[simp] theorem within_atom {a : Atom} {rest : Formula} :
    Within limit depth (atom a rest) ↔ Within limit depth rest := Iff.rfl

theorem within_group {inner rest : Formula} :
    Within limit depth (group inner rest) ↔
      (depth : Int) < limit ∧ Within limit (depth + 1) inner ∧ Within limit depth rest := by
  simp only [Within, Formula.depth]
  omega

theorem within_top {f : Formula} : Within limit 0 f ↔ f.depth ≤ limit.toNat := by
  simp [Within]

theorem exists_within (depth : Nat) (f : Formula) (limit : Int) :
    ∃ limit', limit ≤ limit' ∧ Within limit' depth f := by
  refine ⟨max limit (depth + f.depth), by omega, ?_⟩
  simp only [Within]
  omega

/-! The value of a row, item by item. -/

theorem settle_atom (a : Atom) (rest : Formula) :
    settle limit depth (atom a rest) = (settle limit depth rest).map (a :: ·) := by
  cases h : settle limit depth rest <;> simp [settle, h, pure, Except.pure]

theorem settle_group_deep (h : limit ≤ depth) (inner rest : Formula) :
    settle limit depth (group inner rest) = .error (.tooDeep limit) := by
  simp [settle, h]

theorem settle_group (h : (depth : Int) < limit) (inner rest : Formula) :
    settle limit depth (group inner rest) =
      settle limit (depth + 1) inner >>= fun atoms => reduce atoms >>= fun x =>
        (settle limit depth rest).map (.number x :: ·) := by
  simp only [settle, if_neg (Int.not_le.2 h)]
  cases settle limit depth rest <;> rfl

theorem settle_group_eq_ok {inner rest : Formula} {atoms : List Atom} :
    settle limit depth (group inner rest) = .ok atoms ↔
      (depth : Int) < limit ∧ ∃ us x vs, settle limit (depth + 1) inner = .ok us ∧
        reduce us = .ok x ∧ settle limit depth rest = .ok vs ∧ atoms = .number x :: vs := by
  by_cases h : (depth : Int) < limit
  · simp only [settle_group h, bind_eq_ok, map_eq_ok, h, true_and]
    constructor
    · intro h
      obtain ⟨us, hus, x, hx, vs, hvs, rfl⟩ := h
      exact ⟨us, x, vs, hus, hx, hvs, rfl⟩
    · intro h
      obtain ⟨us, x, vs, hus, hx, hvs, rfl⟩ := h
      exact ⟨us, hus, x, hx, vs, hvs, rfl⟩
  · rw [settle_group_deep (Int.not_lt.1 h)]
    simp [h]

theorem settle_append (f g : Formula) :
    settle limit depth (f ++ g) = settle limit depth f >>= fun us =>
      (settle limit depth g).map (us ++ ·) := by
  induction f with
  | nil =>
    rw [nil_append]
    cases settle limit depth g <;> rfl
  | atom a rest ih =>
    rw [atom_append, settle_atom, settle_atom, ih]
    cases settle limit depth rest with
    | error e => rfl
    | ok us => cases settle limit depth g <;> rfl
  | group inner rest _ ih =>
    rw [group_append]
    by_cases hd : (depth : Int) < limit
    · rw [settle_group hd, settle_group hd, ih]
      cases settle limit (depth + 1) inner with
      | error e => rfl
      | ok us =>
        rw [ok_bind, ok_bind]
        cases reduce us with
        | error e => rfl
        | ok x =>
          cases settle limit depth rest with
          | error e => rfl
          | ok vs => cases settle limit depth g <;> rfl
    · rw [settle_group_deep (Int.not_lt.1 hd), settle_group_deep (Int.not_lt.1 hd), error_bind]

theorem within_of_settle {f : Formula} {atoms : List Atom}
    (h : settle limit depth f = .ok atoms) : Within limit depth f := by
  induction f generalizing depth atoms with
  | nil => exact within_nil
  | atom a rest ih =>
    rw [settle_atom, map_eq_ok] at h
    obtain ⟨vs, hvs, -⟩ := h
    exact within_atom.2 (ih hvs)
  | group inner rest ih₁ ih₂ =>
    obtain ⟨hd, us, x, vs, hus, -, hvs, -⟩ := settle_group_eq_ok.1 h
    exact within_group.2 ⟨hd, ih₁ hus, ih₂ hvs⟩

theorem settle_of_within {f : Formula} {atoms : List Atom}
    (h : settle limit depth f = .ok atoms) (hw : Within limit' depth' f) :
    settle limit' depth' f = .ok atoms := by
  induction f generalizing depth depth' atoms with
  | nil => exact h
  | atom a rest ih =>
    rw [settle_atom, map_eq_ok] at h
    obtain ⟨vs, hvs, rfl⟩ := h
    rw [settle_atom, ih hvs (within_atom.1 hw), map_ok]
  | group inner rest ih₁ ih₂ =>
    obtain ⟨-, us, x, vs, hus, hx, hvs, rfl⟩ := settle_group_eq_ok.1 h
    obtain ⟨hd, hw₁, hw₂⟩ := within_group.1 hw
    exact settle_group_eq_ok.2 ⟨hd, us, x, vs, ih₁ hus hw₁, hx, ih₂ hvs hw₂, rfl⟩

/-! A lower limit stops at a group, or changes nothing. -/

/-- Under the limit there is no room, or the outcome is `y` all the same. -/
def StopsOr (limit : Int) {α : Type} (x y : Except Fault α) : Prop :=
  x = .error (.tooDeep limit) ∨ x = y

section
variable {α β : Type} {x y : Except Fault α}

theorem StopsOr.rfl : StopsOr limit x x := .inr (Eq.refl x)

theorem StopsOr.bind {k l : α → Except Fault β} (h : StopsOr limit x y)
    (hk : ∀ a, StopsOr limit (k a) (l a)) : StopsOr limit (x >>= k) (y >>= l) := by
  obtain hdeep | hsame := h
  · subst hdeep
    exact .inl (error_bind _ k)
  · subst hsame
    cases x with
    | error e => exact .rfl
    | ok a => exact hk a

theorem StopsOr.map (f : α → β) (h : StopsOr limit x y) : StopsOr limit (x.map f) (y.map f) := by
  obtain hdeep | hsame := h
  · subst hdeep
    exact .inl (map_error f _)
  · subst hsame
    exact .rfl

end

theorem settle_of_le (h : limit ≤ limit') (depth : Nat) (f : Formula) :
    StopsOr limit (settle limit depth f) (settle limit' depth f) := by
  induction f generalizing depth with
  | nil => exact .rfl
  | atom a rest ih =>
    rw [settle_atom, settle_atom]
    exact (ih depth).map _
  | group inner rest ih₁ ih₂ =>
    by_cases hl : (depth : Int) < limit
    · have hl' : (depth : Int) < limit' := Int.lt_of_lt_of_le hl h
      rw [settle_group hl, settle_group hl']
      exact (ih₁ (depth + 1)).bind fun us => StopsOr.rfl.bind fun x => (ih₂ depth).map _
    · exact .inl (settle_group_deep (Int.not_lt.1 hl) inner rest)

theorem evaluate_of_le (h : limit ≤ limit') (f : Formula) :
    StopsOr limit (f.evaluate limit) (f.evaluate limit') :=
  (settle_of_le h 0 f).bind fun _ => .rfl

theorem evaluate_eq_ok {f : Formula} {x : Float} :
    f.evaluate limit = .ok x ↔ ∃ atoms, settle limit 0 f = .ok atoms ∧ reduce atoms = .ok x :=
  bind_eq_ok

theorem depth_le_of_evaluate {f : Formula} {x : Float} (h : f.evaluate limit = .ok x) :
    f.depth ≤ limit.toNat := by
  obtain ⟨atoms, hs, -⟩ := evaluate_eq_ok.1 h
  exact within_top.1 (within_of_settle hs)

theorem evaluate_of_depth_le {f : Formula} {x : Float} (h : f.evaluate limit = .ok x)
    (hd : f.depth ≤ limit'.toNat) : f.evaluate limit' = .ok x := by
  obtain ⟨atoms, hs, hx⟩ := evaluate_eq_ok.1 h
  exact evaluate_eq_ok.2 ⟨atoms, settle_of_within hs (within_top.2 hd), hx⟩

theorem evaluate_of_value {f : Formula} {x : Float} (h : f.evaluate limit' = .ok x) :
    f.evaluate limit = if f.depth ≤ limit.toNat then .ok x else .error (.tooDeep limit) := by
  split
  · next hd => exact evaluate_of_depth_le h hd
  · next hd =>
    obtain ⟨high, hle, hw⟩ := exists_within 0 f limit
    have hhigh : f.evaluate high = .ok x := evaluate_of_depth_le h (within_top.1 hw)
    refine (evaluate_of_le hle f).resolve_right fun he => ?_
    exact hd (depth_le_of_evaluate (he.trans hhigh))

end Reckon.Formula
