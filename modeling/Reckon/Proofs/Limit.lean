import Reckon.Proofs.Agreement
import Reckon.Bindings

/-! One limit for all. Reading, the check and evaluation stop at the same groups, namely at those
that lie deeper than the limit, and before they come to one the limit is nothing to them: any other
outcome is the outcome under all higher limits as well. -/
namespace Reckon
open Outcome

def TooDeep {α : Type} (x : Except Fault α) : Prop :=
  ∃ fault, x = .error fault ∧ fault.kind = .nestingTooDeep

section
variable {α β : Type} {limit : Int} {x y : Except Fault α}

theorem not_tooDeep_ok (a : α) : ¬ TooDeep (Except.ok a : Except Fault α) := by
  intro h
  obtain ⟨fault, hfault, -⟩ := h
  cases hfault

theorem not_tooDeep_error {fault : Fault} (h : fault.kind ≠ .nestingTooDeep) :
    ¬ TooDeep (Except.error fault : Except Fault α) := by
  intro hdeep
  obtain ⟨_, hfault, hkind⟩ := hdeep
  cases hfault
  exact h hkind

theorem not_tooDeep_bind {k : α → Except Fault β} (hx : ¬ TooDeep x)
    (hk : ∀ a, ¬ TooDeep (k a)) : ¬ TooDeep (x >>= k) := by
  cases x with
  | ok a => exact hk a
  | error fault => exact not_tooDeep_error fun hkind => hx ⟨fault, rfl, hkind⟩

theorem not_tooDeep_map {f : α → β} (hx : ¬ TooDeep x) : ¬ TooDeep (x.map f) := by
  cases x with
  | ok a => exact not_tooDeep_ok (f a)
  | error fault => exact not_tooDeep_error fun hkind => hx ⟨fault, rfl, hkind⟩

theorem Formula.StopsOr.eq_of_not_tooDeep (h : StopsOr limit x y) (hx : ¬ TooDeep x) : y = x := by
  obtain hdeep | hsame := h
  · exact absurd ⟨_, hdeep, Eq.refl _⟩ hx
  · exact hsame.symm

end

/-! Without groups there is nothing to be too deep. -/

theorem not_tooDeep_applyFunctions (as : List Atom) : ¬ TooDeep (applyFunctions as) := by
  fun_induction applyFunctions as with
  | case1 => exact not_tooDeep_ok []
  | case2 f => exact not_tooDeep_error (by simp [Fault.kind])
  | case3 f x rest ih => exact not_tooDeep_map ih
  | case4 f name rest => exact not_tooDeep_error (by simp [Fault.kind])
  | case5 f a rest => exact not_tooDeep_error (by simp [Fault.kind])
  | case6 a rest hf ih => exact not_tooDeep_map ih

theorem not_tooDeep_applyTier (tier : Nat) (left : Option Atom) (as : List Atom) :
    ¬ TooDeep (applyTier tier left as) := by
  fun_induction applyTier tier left as with
  | case1 left => exact not_tooDeep_ok _
  | case2 op ht x y rest ih => exact ih
  | case3 op ht a b rest hn => exact not_tooDeep_error (by simp [Fault.kind])
  | case4 op ht left rest hn hs => exact not_tooDeep_error (by simp [Fault.kind])
  | case5 left op rest ht ih => exact not_tooDeep_map ih
  | case6 left a rest hop ih => exact not_tooDeep_map ih

theorem not_tooDeep_single (as : List Atom) : ¬ TooDeep (single as) := by
  unfold single
  split
  · exact not_tooDeep_ok _
  · exact not_tooDeep_error (by simp [Fault.kind])

theorem not_tooDeep_reduce (as : List Atom) : ¬ TooDeep (reduce as) := by
  unfold reduce
  split
  · exact not_tooDeep_error (by simp [Fault.kind])
  · refine not_tooDeep_bind (not_tooDeep_applyFunctions as) fun bs => ?_
    refine not_tooDeep_bind (not_tooDeep_applyTier 0 none bs) fun cs => ?_
    refine not_tooDeep_bind (not_tooDeep_applyTier 1 none cs) fun ds => ?_
    exact not_tooDeep_bind (not_tooDeep_applyTier 2 none ds) not_tooDeep_single

namespace Formula
variable {limit limit' : Int} {depth : Nat}

/-! Where there is room for a formula, none of its groups is too deep. -/

theorem not_tooDeep_settle {f : Formula} (h : Within limit depth f) :
    ¬ TooDeep (settle limit depth f) := by
  induction f generalizing depth with
  | nil => exact not_tooDeep_ok []
  | atom a rest ih =>
    rw [settle_atom]
    exact not_tooDeep_map (ih (within_atom.1 h))
  | group inner rest ih₁ ih₂ =>
    obtain ⟨hroom, hinner, hrest⟩ := within_group.1 h
    rw [settle_group hroom]
    refine not_tooDeep_bind (ih₁ hinner) fun us => ?_
    exact not_tooDeep_bind (not_tooDeep_reduce us) fun x => not_tooDeep_map (ih₂ hrest)

theorem not_tooDeep_check {f : Formula} (h : Within limit depth f) (p : Place) (index : Nat) :
    ¬ TooDeep (f.check limit depth p index) := by
  induction f generalizing depth p index with
  | nil =>
    unfold check
    split
    · exact not_tooDeep_ok ()
    · exact not_tooDeep_error (by simp [Fault.kind])
  | atom a rest ih =>
    simp only [check]
    cases p.step (.atom a) with
    | none => exact not_tooDeep_error (by simp [Fault.kind])
    | some q => exact ih (within_atom.1 h) q (index + 1)
  | group inner rest ih₁ ih₂ =>
    obtain ⟨hroom, hinner, hrest⟩ := within_group.1 h
    simp only [check]
    cases p.step .group with
    | none => exact not_tooDeep_error (by simp [Fault.kind])
    | some q =>
      simp only [if_neg (Int.not_le.2 hroom)]
      exact not_tooDeep_bind (ih₁ hinner .start 0) fun _ => ih₂ hrest q (index + 1)

theorem not_tooDeep_validate {f : Formula} (h : f.depth ≤ limit.toNat) :
    ¬ TooDeep (f.validate limit) := not_tooDeep_check (within_top.2 h) .start 0

theorem not_tooDeep_evaluate {f : Formula} (h : f.depth ≤ limit.toNat) :
    ¬ TooDeep (f.evaluate limit) :=
  not_tooDeep_bind (not_tooDeep_settle (within_top.2 h)) not_tooDeep_reduce

end Formula

/-! A lower limit stops reading at a group, or changes nothing. -/

namespace Frames
open Formula
variable {limit limit' : Int}

theorem push_of_le (h : limit ≤ limit') (s : Frames) (l : Lexeme) :
    StopsOr limit (push limit s l) (push limit' s l) := by
  cases hl : l.token with
  | atom a =>
    rw [push_atom hl, push_atom hl]
    exact .rfl
  | opening b =>
    rw [push_opening hl, push_opening hl]
    by_cases hdeep : limit ≤ s.outer.length
    · exact .inl (if_pos hdeep)
    · have hdeep' : ¬ limit' ≤ s.outer.length := by omega
      rw [if_neg hdeep, if_neg hdeep']
      exact .rfl
  | closing b =>
    -- A closing bracket is not measured against the limit.
    have hsame : push limit s l = push limit' s l := by simp only [push, hl]
    rw [hsame]
    exact .rfl

theorem foldlM_push_of_le (h : limit ≤ limit') (ls : List Lexeme) (s : Frames) :
    StopsOr limit (ls.foldlM (push limit) s) (ls.foldlM (push limit') s) := by
  induction ls generalizing s with
  | nil => exact .rfl
  | cons l ls ih =>
    rw [List.foldlM_cons, List.foldlM_cons]
    exact (push_of_le h s l).bind ih

end Frames

namespace Formula
variable {limit limit' : Int}

theorem read_of_le (h : limit ≤ limit') (source : String) :
    StopsOr limit (read limit source) (read limit' source) := by
  unfold read ofScan
  exact (Frames.foldlM_push_of_le h _ _).bind fun _ => .rfl

theorem depth_bind (f : Formula) (name : String) (x : Float) : (f.bind name x).depth = f.depth :=
  depth_replace_numeric (Assignment.numeric_single name x) f

theorem depth_foldl_bind (values : Bindings) (f : Formula) :
    (values.foldl (fun g value => g.bind value.1 value.2) f).depth = f.depth := by
  induction values generalizing f with
  | nil => rfl
  | cons value values ih =>
    rw [List.foldl_cons, ih]
    exact depth_bind f value.1 value.2

/-- What is not too deep is the same under every higher limit; a formula is not too deep where its
depth is within the limit, and nothing succeeds where it is not. So what has been read stays within
the limit it was read under, whatever numbers are bound in it. -/
theorem limit_only_stops (h : limit ≤ limit') (source : String) (f : Formula) :
    ((¬ TooDeep (read limit source) → read limit' source = read limit source) ∧
      (¬ TooDeep (f.validate limit) → f.validate limit' = f.validate limit) ∧
      (¬ TooDeep (f.evaluate limit) → f.evaluate limit' = f.evaluate limit)) ∧
    ((f.depth : Int) ≤ max limit 0 →
      ¬ TooDeep (f.validate limit) ∧ ¬ TooDeep (f.evaluate limit)) ∧
    (read limit source = .ok f ∨ f.validate limit = .ok () ∨ (∃ x, f.evaluate limit = .ok x) →
      (f.depth : Int) ≤ max limit 0) ∧
    (read limit source = .ok f → ∀ values : Bindings,
      let g := values.foldl (fun g value => g.bind value.1 value.2) f
      ¬ TooDeep (g.validate limit) ∧ ¬ TooDeep (g.evaluate limit)) := by
  refine ⟨⟨?_, ?_, ?_⟩, ?_, ?_, ?_⟩
  · exact (read_of_le h source).eq_of_not_tooDeep
  · exact (check_of_le h 0 .start 0 f).eq_of_not_tooDeep
  · exact (evaluate_of_le h f).eq_of_not_tooDeep
  · intro hdepth
    have hdepth' : f.depth ≤ limit.toNat := by omega
    exact ⟨not_tooDeep_validate hdepth', not_tooDeep_evaluate hdepth'⟩
  · intro hsucceeds
    have hdepth : f.depth ≤ limit.toNat := by
      obtain hread | hvalid | ⟨x, hx⟩ := hsucceeds
      · obtain ⟨ls, -, -, hdepth⟩ := read_eq_ok.1 hread
        exact hdepth
      · exact (validate_eq_ok.1 hvalid).2
      · exact depth_le_of_evaluate hx
    omega
  · intro hread values g
    obtain ⟨ls, -, -, hdepth⟩ := read_eq_ok.1 hread
    have hbound : g.depth ≤ limit.toNat := by
      rw [depth_foldl_bind values f]
      exact hdepth
    exact ⟨not_tooDeep_validate hbound, not_tooDeep_evaluate hbound⟩

set_option maxRecDepth 8000 in
/-- A bracket of the wrong family is reported before the brackets behind it come to be too deep, and
so it is under a higher limit; a formula of depth 2 is just not too deep for the limit 2. -/
theorem limit_behind_stray_closing :
    (1 : Int) ≤ 2 ∧ read 1 "(]((" = .error (.strayClosing .square 1) ∧
      read 2 "(]((" = .error (.strayClosing .square 1) ∧
      ¬ TooDeep ((group (group nil nil) nil).evaluate 2) ∧
      TooDeep ((group (group nil nil) nil).evaluate 1) := by
  have hscan : (Cursor.start "(]((").scan =
      ([⟨.opening .round, 0⟩, ⟨.closing .square, 1⟩, ⟨.opening .round, 2⟩, ⟨.opening .round, 3⟩],
        none) := by
    cbv
  have hstray : read 1 "(]((" = .error (.strayClosing .square 1) := by
    rw [read, hscan]
    rfl
  have hshallow : ¬ TooDeep (read 1 "(]((") := by
    rw [hstray]
    exact not_tooDeep_error (by decide)
  have hhigher := (limit_only_stops (by decide : (1 : Int) ≤ 2) "(]((" nil).1.1 hshallow
  have htwo := (limit_only_stops (Int.le_refl 2) "" (group (group nil nil) nil)).2.1 (by decide)
  exact ⟨by decide, hstray, hhigher.trans hstray, htwo.2, ⟨_, rfl, rfl⟩⟩

end Formula
end Reckon
