import Mathlib.Data.List.Forall2
import Reckon.Proofs.Binding
import Reckon.Proofs.Meaning

/-! Evaluation goes by the shape of a formula. Two formulas without unknowns that differ in their
numbers only end alike: both have a value, or both fail, and with the same kind of fault. This is
followed pass by pass, and no pass looks at a number to decide what to do. -/
namespace Reckon
open Outcome

/-- The same but for numbers. An unknown is like nothing, not even like itself. -/
inductive Atom.Alike : Atom → Atom → Prop where
  | number (x y : Float) : Alike (.number x) (.number y)
  | binary (op : Binary) : Alike (.binary op) (.binary op)
  | function (f : Elementary) : Alike (.function f) (.function f)

abbrev RowsAlike : List Atom → List Atom → Prop := List.Forall₂ Atom.Alike

/-- Both come to something, or both fail with one kind of fault that is not about an unknown. -/
inductive EndAlike {α β : Type} (r : α → β → Prop) : Except Fault α → Except Fault β → Prop where
  | ok {a : α} {b : β} : r a b → EndAlike r (.ok a) (.ok b)
  | error {f g : Fault} : f.kind = g.kind → f.kind ≠ .unsetVariable →
      EndAlike r (.error f) (.error g)

section
variable {α β γ δ : Type} {r : α → β → Prop} {s : γ → δ → Prop}
  {x : Except Fault α} {y : Except Fault β}

theorem EndAlike.bind {k : α → Except Fault γ} {l : β → Except Fault δ} (h : EndAlike r x y)
    (hkl : ∀ a b, r a b → EndAlike s (k a) (l b)) : EndAlike s (x >>= k) (y >>= l) := by
  cases h with
  | ok hab => exact hkl _ _ hab
  | error hkind hset => exact .error hkind hset

theorem EndAlike.map {f : α → γ} {g : β → δ} (h : EndAlike r x y)
    (hfg : ∀ a b, r a b → s (f a) (g b)) : EndAlike s (x.map f) (y.map g) := by
  cases h with
  | ok hab => exact .ok (hfg _ _ hab)
  | error hkind hset => exact .error hkind hset

end

/-! The passes over a row. -/

theorem applyFunctions_alike {as bs : List Atom} (h : RowsAlike as bs) :
    EndAlike RowsAlike (applyFunctions as) (applyFunctions bs) := by
  fun_induction applyFunctions as generalizing bs with
  | case1 =>
    cases h
    exact .ok .nil
  | case2 f =>
    obtain ⟨b, bs, hf, hnil, rfl⟩ := List.forall₂_cons_left_iff.1 h
    cases hf
    cases hnil
    exact .error rfl (by simp [Fault.kind])
  | case3 f x rest ih =>
    obtain ⟨b, bs, hf, htail, rfl⟩ := List.forall₂_cons_left_iff.1 h
    obtain ⟨c, bs, hx, hrest, rfl⟩ := List.forall₂_cons_left_iff.1 htail
    cases hf
    cases hx
    exact (ih hrest).map fun _ _ hrow => .cons (.number _ _) hrow
  | case4 f name rest =>
    obtain ⟨b, bs, -, htail, rfl⟩ := List.forall₂_cons_left_iff.1 h
    obtain ⟨c, bs, hname, -, rfl⟩ := List.forall₂_cons_left_iff.1 htail
    cases hname
  | case5 f a rest hnumber hunknown =>
    obtain ⟨b, bs, hf, htail, rfl⟩ := List.forall₂_cons_left_iff.1 h
    obtain ⟨c, bs, ha, -, rfl⟩ := List.forall₂_cons_left_iff.1 htail
    cases hf
    cases ha with
    | number x y => exact absurd rfl (hnumber x)
    | binary op => exact .error rfl (by simp [Fault.kind])
    | function g => exact .error rfl (by simp [Fault.kind])
  | case6 a rest hfunction ih =>
    obtain ⟨b, bs, ha, hrest, rfl⟩ := List.forall₂_cons_left_iff.1 h
    cases ha with
    | number x y => exact (ih hrest).map fun _ _ hrow => .cons (.number x y) hrow
    | binary op => exact (ih hrest).map fun _ _ hrow => .cons (.binary op) hrow
    | function f => exact absurd rfl (hfunction f)

theorem rowsAlike_toList {left left' : Option Atom} (h : Option.Rel Atom.Alike left left') :
    RowsAlike left.toList left'.toList := by
  cases h with
  | none => exact .nil
  | some ha => exact .cons ha .nil

theorem applyTier_stuck {tier : Nat} {op : Binary} (left : Option Atom) (rest : List Atom)
    (ht : op.tier = tier)
    (h : ∀ x y tail, left = some (.number x) → rest = .number y :: tail → False) :
    ∃ f, applyTier tier left (.binary op :: rest) = .error f ∧ f.kind = .unexpectedToken := by
  rw [applyTier.eq_def]
  simp only [ht, if_true]
  split
  · next x y tail => exact absurd rfl fun hrest => h x y tail rfl hrest
  · exact ⟨_, rfl, rfl⟩
  · exact ⟨_, rfl, rfl⟩

theorem applyTier_alike {tier : Nat} {left left' : Option Atom} {as bs : List Atom}
    (hleft : Option.Rel Atom.Alike left left') (h : RowsAlike as bs) :
    EndAlike RowsAlike (applyTier tier left as) (applyTier tier left' bs) := by
  fun_induction applyTier tier left as generalizing left' bs with
  | case1 left =>
    cases h
    exact .ok (rowsAlike_toList hleft)
  | case2 op ht x y rest ih =>
    obtain ⟨b, bs, hop, htail, rfl⟩ := List.forall₂_cons_left_iff.1 h
    obtain ⟨c, bs, hy, hrest, rfl⟩ := List.forall₂_cons_left_iff.1 htail
    cases hleft with
    | some hx =>
      cases hx
      cases hop
      cases hy
      rw [applyTier_same ht]
      exact ih (.some (.number _ _)) hrest
  | case3 op ht a b rest hn =>
    -- Numbers on both sides in the other row would be numbers on both sides here.
    obtain ⟨c, cs, hop, htail, rfl⟩ := List.forall₂_cons_left_iff.1 h
    cases hop
    obtain ⟨f, hf, hkind⟩ := applyTier_stuck left' cs ht (by
      rintro x y tail rfl rfl
      obtain ⟨ha⟩ := hleft
      obtain ⟨hb, -⟩ := List.forall₂_cons.1 htail
      cases ha
      cases hb
      exact hn _ _ rfl rfl)
    rw [hf]
    exact .error hkind.symm (by simp [Fault.kind])
  | case4 left op rest ht hn hs =>
    obtain ⟨c, cs, hop, htail, rfl⟩ := List.forall₂_cons_left_iff.1 h
    cases hop
    obtain ⟨f, hf, hkind⟩ := applyTier_stuck left' cs ht (by
      rintro x y tail rfl rfl
      obtain ⟨ha⟩ := hleft
      obtain ⟨b, bs, hb, -, rfl⟩ := List.forall₂_cons_right_iff.1 htail
      exact hs _ _ _ rfl rfl)
    rw [hf]
    exact .error hkind.symm (by simp [Fault.kind])
  | case5 left op rest ht ih =>
    obtain ⟨b, bs, hop, hrest, rfl⟩ := List.forall₂_cons_left_iff.1 h
    cases hop
    rw [applyTier_other ht]
    exact (ih (.some (.binary op)) hrest).map fun _ _ hrow =>
      List.rel_append (rowsAlike_toList hleft) hrow
  | case6 left a rest hop ih =>
    obtain ⟨b, bs, ha, hrest, rfl⟩ := List.forall₂_cons_left_iff.1 h
    have hb : ∀ op, b ≠ .binary op := by
      rintro op rfl
      cases ha
      exact hop op rfl
    rw [applyTier_operand hb]
    exact (ih (.some ha) hrest).map fun _ _ hrow =>
      List.rel_append (rowsAlike_toList hleft) hrow

theorem single_stuck {as : List Atom} (h : ∀ x, as ≠ [.number x]) :
    single as = .error (.leftOver as) := by
  unfold single
  split
  · next x => exact absurd rfl (h x)
  · rfl

theorem single_alike {as bs : List Atom} (h : RowsAlike as bs) :
    EndAlike (fun _ _ => True) (single as) (single bs) := by
  by_cases hone : ∃ y, bs = [.number y]
  · obtain ⟨y, rfl⟩ := hone
    obtain ⟨a, as, ha, hrest, rfl⟩ := List.forall₂_cons_right_iff.1 h
    cases ha
    cases hrest
    exact .ok trivial
  · have hbs : ∀ y, bs ≠ [.number y] := fun y hy => hone ⟨y, hy⟩
    have has : ∀ x, as ≠ [.number x] := by
      rintro x rfl
      obtain ⟨b, bs, hb, hrest, rfl⟩ := List.forall₂_cons_left_iff.1 h
      cases hb
      cases hrest
      exact hbs _ rfl
    rw [single_stuck has, single_stuck hbs]
    exact .error rfl (by simp [Fault.kind])

theorem reduce_alike {as bs : List Atom} (h : RowsAlike as bs) :
    EndAlike (fun _ _ => True) (reduce as) (reduce bs) := by
  cases h with
  | nil => exact .error rfl (by decide)
  | cons ha hrest =>
    refine (applyFunctions_alike (.cons ha hrest)).bind fun _ _ hrow => ?_
    refine (applyTier_alike .none hrow).bind fun _ _ hrow => ?_
    refine (applyTier_alike .none hrow).bind fun _ _ hrow => ?_
    refine (applyTier_alike .none hrow).bind fun _ _ hrow => ?_
    exact single_alike hrow

namespace Formula
variable {limit : Int}

inductive Alike : Formula → Formula → Prop where
  | nil : Alike nil nil
  | atom {a b : Atom} {f g : Formula} : a.Alike b → Alike f g → Alike (atom a f) (atom b g)
  | group {inner inner' f g : Formula} : Alike inner inner' → Alike f g →
      Alike (group inner f) (group inner' g)

theorem settle_alike {f g : Formula} (h : f.Alike g) (depth : Nat) :
    EndAlike RowsAlike (settle limit depth f) (settle limit depth g) := by
  induction h generalizing depth with
  | nil => exact .ok .nil
  | atom ha _ ih =>
    rw [settle_atom, settle_atom]
    exact (ih depth).map fun _ _ hrow => .cons ha hrow
  | group _ _ ih₁ ih₂ =>
    by_cases hd : (depth : Int) < limit
    · rw [settle_group hd, settle_group hd]
      refine (ih₁ (depth + 1)).bind fun us vs hinner => ?_
      refine (reduce_alike hinner).bind fun x y _ => ?_
      exact (ih₂ depth).map fun _ _ hrow => .cons (.number x y) hrow
    · rw [settle_group_deep (Int.not_lt.1 hd), settle_group_deep (Int.not_lt.1 hd)]
      exact .error rfl (by simp [Fault.kind])

theorem evaluate_alike {f g : Formula} (h : f.Alike g) :
    EndAlike (fun _ _ => True) (f.evaluate limit) (g.evaluate limit) :=
  (settle_alike h 0).bind fun _ _ => reduce_alike

theorem alike_replace {σ τ : Assignment} {f : Formula}
    (hσ : ∀ name ∈ f.unknowns, ∃ x, σ name = some (.number x))
    (hτ : ∀ name ∈ f.unknowns, ∃ x, τ name = some (.number x)) :
    (f.replace σ).Alike (f.replace τ) := by
  induction f with
  | nil => exact .nil
  | atom a rest ih =>
    have hrest := ih
      (fun name hn => hσ name (unknowns_atom a rest ▸ List.mem_append_right _ hn))
      (fun name hn => hτ name (unknowns_atom a rest ▸ List.mem_append_right _ hn))
    cases a with
    | unknown name =>
      obtain ⟨x, hx⟩ := hσ name List.mem_cons_self
      obtain ⟨y, hy⟩ := hτ name List.mem_cons_self
      rw [replace_unknown_found hx, replace_unknown_found hy]
      exact .atom (.number x y) hrest
    | number x => exact .atom (.number x x) hrest
    | binary op => exact .atom (.binary op) hrest
    | function g => exact .atom (.function g) hrest
  | group inner rest ih₁ ih₂ =>
    have hinner := ih₁ (fun name hn => hσ name (List.mem_append_left _ hn))
      (fun name hn => hτ name (List.mem_append_left _ hn))
    have hrest := ih₂ (fun name hn => hσ name (List.mem_append_right _ hn))
      (fun name hn => hτ name (List.mem_append_right _ hn))
    exact .group hinner hrest

end Formula

namespace Expression
variable {e : Expression} {values others : Bindings} {name : String}

def CoveredBy (e : Expression) (values : Bindings) : Prop :=
  ∀ name ∈ e.unresolved, name ∈ values.map Prod.fst

theorem CoveredBy.exists_number (h : e.CoveredBy values) (hname : name ∈ e.formula.unknowns) :
    ∃ x, Assignment.ofBindings values name = some (.number x) := by
  have hlookup := lookup_ne_none.2 (h name (Formula.mem_unresolved.2 hname))
  obtain ⟨x, hx⟩ := Option.ne_none_iff_exists'.1 hlookup
  exact ⟨x, by rw [Assignment.ofBindings, hx, Option.map_some]⟩

theorem evaluate_bindAll (e : Expression) (values : Bindings) :
    (e.bindAll values).evaluate =
      (e.formula.replace (.ofBindings values)).evaluate e.settings.limit := by
  rw [evaluate, formula_bindAll, settings_bindAll]

theorem CoveredBy.evaluate_alike (h : e.CoveredBy values) (h' : e.CoveredBy others) :
    EndAlike (fun _ _ => True) (e.bindAll values).evaluate (e.bindAll others).evaluate := by
  rw [evaluate_bindAll, evaluate_bindAll]
  exact Formula.evaluate_alike (Formula.alike_replace (fun _ => h.exists_number)
    fun _ => h'.exists_number)

/-- However the expression came about: without numbers for all its unknowns it has no value, and
with them no number makes a difference to whether it has one, or to the kind of fault if not. -/
theorem evaluate_decided_by_unresolved (e : Expression) (values : Bindings) :
    ((∃ name ∈ e.unresolved, name ∉ values.map Prod.fst) →
      ∃ fault, (e.bindAll values).evaluate = .error fault) ∧
    (e.CoveredBy values →
      (∀ fault, (e.bindAll values).evaluate = .error fault → fault.kind ≠ .unsetVariable) ∧
      ∀ others : Bindings, e.CoveredBy others →
        ((∃ x, (e.bindAll values).evaluate = .ok x) ∧ ∃ y, (e.bindAll others).evaluate = .ok y) ∨
        ∃ fault fault', (e.bindAll values).evaluate = .error fault ∧
          (e.bindAll others).evaluate = .error fault' ∧ fault.kind = fault'.kind) := by
  refine ⟨?_, fun hvalues => ⟨?_, ?_⟩⟩
  · intro hleft
    obtain ⟨name, hname, hnot⟩ := hleft
    cases h : (e.bindAll values).evaluate with
    | ok x =>
      rw [evaluate_bindAll] at h
      have hvalue := Formula.lookup_ne_none_of_evaluate h (Formula.mem_unresolved.1 hname)
      exact absurd (lookup_ne_none.1 hvalue) hnot
    | error fault => exact ⟨fault, rfl⟩
  · intro fault hfault
    have hsame := hvalues.evaluate_alike hvalues
    rw [hfault] at hsame
    cases hsame with
    | error _ hset => exact hset
  · intro others hothers
    have hsame := hvalues.evaluate_alike hothers
    generalize (e.bindAll values).evaluate = outcome at hsame ⊢
    generalize (e.bindAll others).evaluate = outcome' at hsame ⊢
    cases hsame with
    | ok _ => exact .inl ⟨⟨_, rfl⟩, _, rfl⟩
    | error hkind _ => exact .inr ⟨_, _, rfl, rfl, hkind⟩

/-- `sin x / (y)` has a value for zeros, and so it has one for whatever else is put in; without a
number for `y` it has none. -/
theorem evaluate_sine_of_zero_quotient :
    let e : Expression := ⟨.atom (.function .sin) (.atom (.unknown "x") (.atom (.binary .divide)
      (.group (.atom (.unknown "y") .nil) .nil))), .standard⟩
    let zeros : Bindings := [("x", 0), ("y", 0)]
    let others : Bindings := [("y", -Numeral.infinity), ("x", Numeral.nan)]
    e.CoveredBy zeros ∧ e.CoveredBy others ∧ (∃ y, (e.bindAll others).evaluate = .ok y) ∧
      (∃ name ∈ e.unresolved, name ∉ [("x", (1 : Float))].map Prod.fst) ∧
      ∃ fault, (e.bindAll [("x", 1)]).evaluate = .error fault := by
  intro e zeros others
  have hunknowns : e.formula.unknowns = ["x", "y"] := rfl
  have hzeros : e.CoveredBy zeros := by
    intro name hname
    rw [unresolved, Formula.mem_unresolved, hunknowns] at hname
    simpa [zeros] using hname
  have hothers : e.CoveredBy others := by
    intro name hname
    rw [unresolved, Formula.mem_unresolved, hunknowns] at hname
    simpa [others, or_comm] using hname
  have hleft : ∃ name ∈ e.unresolved, name ∉ [("x", (1 : Float))].map Prod.fst := by
    refine ⟨"y", Formula.mem_unresolved.2 ?_, by decide⟩
    rw [hunknowns]
    decide
  have hvalue : ∃ x, (e.bindAll zeros).evaluate = .ok x := ⟨_, rfl⟩
  obtain ⟨-, hsame⟩ := (evaluate_decided_by_unresolved e zeros).2 hzeros
  obtain ⟨-, hy⟩ | ⟨fault, -, hfault, -⟩ := hsame others hothers
  · exact ⟨hzeros, hothers, hy, hleft, (evaluate_decided_by_unresolved e [("x", 1)]).1 hleft⟩
  · obtain ⟨x, hx⟩ := hvalue
    rw [hx] at hfault
    cases hfault

end Expression
end Reckon
