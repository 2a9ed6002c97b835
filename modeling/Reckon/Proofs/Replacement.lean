import Reckon.Formula.Binding

/-! What replacing does to a formula: which unknowns are left, how deep the outcome is, and that two
replacements in a row are one. -/
namespace Reckon

namespace Assignment

def Numeric (σ : Assignment) : Prop := ∀ name inner, σ name ≠ some (.group inner)

def ofValues (ν : String → Float) : Assignment := fun name => some (.number (ν name))

theorem numeric_ofValues (ν : String → Float) : (ofValues ν).Numeric := by
  intro name inner h
  cases h

theorem numeric_single (name : String) (x : Float) : (single name (.number x)).Numeric := by
  intro other inner h
  simp only [single] at h
  split at h <;> cases h

@[simp] theorem single_self (name : String) (e : Entry) : single name e name = some e := if_pos rfl

theorem single_of_ne {name other : String} (h : other ≠ name) (e : Entry) :
    single name e other = none := if_neg h

end Assignment

namespace Atom

theorem eq_unknown_or_stays (a : Atom) (name : String) :
    a = .unknown name ∨ ∀ e, a.replacement? (.single name e) = none := by
  cases a with
  | unknown other =>
    by_cases h : other = name
    · exact .inl (by rw [h])
    · exact .inr (Assignment.single_of_ne h)
  | number x => exact .inr fun _ => rfl
  | binary op => exact .inr fun _ => rfl
  | function f => exact .inr fun _ => rfl

theorem eq_unknown_of_replacement? {σ : Assignment} {a : Atom} {e : Entry}
    (h : a.replacement? σ = some e) : ∃ name, a = .unknown name ∧ σ name = some e := by
  cases a with
  | unknown name => exact ⟨name, rfl, h⟩
  | number x => cases h
  | binary op => cases h
  | function f => cases h

end Atom

namespace Formula
variable {σ τ : Assignment}

@[simp] theorem replace_nil : nil.replace σ = nil := rfl
@[simp] theorem replace_group (inner rest : Formula) :
    (group inner rest).replace σ = group (inner.replace σ) (rest.replace σ) := rfl

theorem replace_stays {a : Atom} (h : a.replacement? σ = none) (rest : Formula) :
    (atom a rest).replace σ = atom a (rest.replace σ) := by
  simp only [replace, h]

theorem replace_found {a : Atom} {e : Entry} (h : a.replacement? σ = some e) (rest : Formula) :
    (atom a rest).replace σ = e.onto (rest.replace σ) := by
  simp only [replace, h]

theorem replace_unknown_stays {name : String} (h : σ name = none) (rest : Formula) :
    (atom (.unknown name) rest).replace σ = atom (.unknown name) (rest.replace σ) :=
  @replace_stays σ (.unknown name) h rest

theorem replace_unknown_found {name : String} {e : Entry} (h : σ name = some e) (rest : Formula) :
    (atom (.unknown name) rest).replace σ = e.onto (rest.replace σ) :=
  @replace_found σ (.unknown name) e h rest

theorem unknowns_atom (a : Atom) (rest : Formula) :
    (atom a rest).unknowns =
      (match a with | .unknown name => [name] | _ => []) ++ rest.unknowns := by
  cases a <;> rfl

theorem replace_congr {f : Formula} (h : ∀ name ∈ f.unknowns, σ name = τ name) :
    f.replace σ = f.replace τ := by
  induction f with
  | nil => rfl
  | atom a rest ih =>
    have hrest := ih fun name hn => h name (by rw [unknowns_atom]; exact List.mem_append_right _ hn)
    have ha : a.replacement? σ = a.replacement? τ := by
      cases a with
      | unknown name => exact h name List.mem_cons_self
      | number x => rfl
      | binary op => rfl
      | function f => rfl
    simp only [replace, ha, hrest]
  | group inner rest ih₁ ih₂ =>
    rw [replace_group, replace_group, ih₁ fun name hn => h name (List.mem_append_left _ hn),
      ih₂ fun name hn => h name (List.mem_append_right _ hn)]

theorem replace_none (f : Formula) : (f.replace fun _ => none) = f := by
  induction f with
  | nil => rfl
  | atom a rest ih =>
    have ha : a.replacement? (fun _ => none) = none := by cases a <;> rfl
    rw [replace_stays ha, ih]
  | group inner rest ih₁ ih₂ => rw [replace_group, ih₁, ih₂]

theorem replace_eq_self {f : Formula} (h : ∀ name ∈ f.unknowns, σ name = none) :
    f.replace σ = f := by
  have hnone : f.replace σ = f.replace fun _ => none := replace_congr h
  rw [hnone, replace_none]

theorem replace_of_unknowns_eq_nil {f : Formula} (h : f.unknowns = []) : f.replace σ = f := by
  refine replace_eq_self fun name hn => ?_
  rw [h] at hn
  cases hn

end Formula

def Entry.replace (τ : Assignment) : Entry → Entry
  | number x => number x
  | group inner => group (inner.replace τ)

/-- First `σ`, and then `τ` in all that is there by then. -/
def Assignment.andThen (σ τ : Assignment) : Assignment := fun name =>
  match σ name with
  | some e => some (e.replace τ)
  | none => τ name

theorem Entry.replace_onto (τ : Assignment) (e : Entry) (rest : Formula) :
    (e.onto rest).replace τ = (e.replace τ).onto (rest.replace τ) := by
  cases e <;> rfl

namespace Formula
variable {σ τ : Assignment}

theorem replace_replace (σ τ : Assignment) (f : Formula) :
    (f.replace σ).replace τ = f.replace (σ.andThen τ) := by
  induction f with
  | nil => rfl
  | atom a rest ih =>
    cases h : a.replacement? σ with
    | none =>
      have ha : a.replacement? (σ.andThen τ) = a.replacement? τ := by
        cases a with
        | unknown name =>
          have hσ : σ name = none := h
          simp [Atom.replacement?, Assignment.andThen, hσ]
        | number x => rfl
        | binary op => rfl
        | function f => rfl
      rw [replace_stays h]
      simp only [replace, ha, ih]
    | some e =>
      obtain ⟨name, rfl, hσ⟩ := Atom.eq_unknown_of_replacement? h
      have ha : (Atom.unknown name).replacement? (σ.andThen τ) = some (e.replace τ) := by
        simp [Atom.replacement?, Assignment.andThen, hσ]
      rw [replace_found h, replace_found ha, Entry.replace_onto, ih]
  | group inner rest ih₁ ih₂ => rw [replace_group, replace_group, replace_group, ih₁, ih₂]

theorem mem_unknowns_replace {f : Formula} {name : String} :
    name ∈ (f.replace σ).unknowns ↔ (name ∈ f.unknowns ∧ σ name = none) ∨
      ∃ other inner, other ∈ f.unknowns ∧ σ other = some (.group inner) ∧
        name ∈ inner.unknowns := by
  induction f with
  | nil => simp [unknowns]
  | atom a rest ih =>
    cases a with
    | unknown other =>
      cases h : σ other with
      | none =>
        rw [replace_unknown_stays h]
        simp only [unknowns, List.mem_cons, ih]
        grind
      | some e =>
        rw [replace_unknown_found h]
        cases e with
        | number x => simp only [Entry.onto, unknowns, List.mem_cons, ih]; grind
        | group inner => simp only [Entry.onto, unknowns, List.mem_append, List.mem_cons, ih]; grind
    | number x => exact ih
    | binary op => exact ih
    | function g => exact ih
  | group inner rest ih₁ ih₂ =>
    simp only [replace_group, unknowns, List.mem_append, ih₁, ih₂]
    grind

theorem mem_unknowns_replace_numeric (hσ : σ.Numeric) {f : Formula} {name : String} :
    name ∈ (f.replace σ).unknowns ↔ name ∈ f.unknowns ∧ σ name = none := by
  rw [mem_unknowns_replace]
  constructor
  · intro h
    obtain h | ⟨other, inner, -, ho, -⟩ := h
    · exact h
    · exact absurd ho (hσ other inner)
  · exact .inl

theorem unknowns_replace_ofValues (ν : String → Float) (f : Formula) :
    (f.replace (.ofValues ν)).unknowns = [] := by
  refine List.eq_nil_iff_forall_not_mem.2 fun name h => ?_
  have := (mem_unknowns_replace_numeric (Assignment.numeric_ofValues ν)).1 h
  cases this.2

theorem depth_replace_numeric (hσ : σ.Numeric) (f : Formula) : (f.replace σ).depth = f.depth := by
  induction f with
  | nil => rfl
  | atom a rest ih =>
    cases h : a.replacement? σ with
    | none => rw [replace_stays h]; exact ih
    | some e =>
      obtain ⟨name, rfl, he⟩ := Atom.eq_unknown_of_replacement? h
      rw [replace_found h]
      cases e with
      | number x => exact ih
      | group inner => exact absurd he (hσ name inner)
  | group inner rest ih₁ ih₂ => simp only [replace_group, depth, ih₁, ih₂]

end Formula

end Reckon
