import Reckon.Proofs.Reading
import Reckon.Proofs.Shape

/-! The grammar of formulas:

    sum     = product, then any number of times an operator of tier 2 and a product
    product = power, then any number of times an operator of tier 1 and a power
    power   = term, then any number of times an operator of tier 0 and a term
    term    = value, with a function in front of it or without
    value   = number | unknown | ( sum ) | [ sum ]

A phrase is a derivation from one of these: level 4 is that of sums, level 0 that of values. Chains
of operators grow at their right end, so all there is to the left of an operator is its left
operand. -/
namespace Reckon

inductive Phrase : Nat → Type where
  | number (x : Float) : Phrase 0
  | unknown (name : String) : Phrase 0
  | bracketed (b : Bracket) (inner : Phrase 4) : Phrase 0
  | applied (f : Elementary) (argument : Phrase 0) : Phrase 1
  | lone {n : Nat} (p : Phrase n) : Phrase (n + 1)
  | joined {n : Nat} (p : Phrase (n + 1)) (op : Binary) (h : op.tier + 1 = n) (q : Phrase n) :
      Phrase (n + 1)

namespace Phrase

abbrev Value := Phrase 0
abbrev Term := Phrase 1
abbrev Sum := Phrase 4

def tokens : {n : Nat} → Phrase n → List Token
  | _, number x => [.atom (.number x)]
  | _, unknown name => [.atom (.unknown name)]
  | _, bracketed b inner => .opening b :: (inner.tokens ++ [.closing b])
  | _, applied f argument => .atom (.function f) :: argument.tokens
  | _, lone p => p.tokens
  | _, joined p op _ q => p.tokens ++ .atom (.binary op) :: q.tokens

def value (ν : String → Float) : {n : Nat} → Phrase n → Float
  | _, number x => x
  | _, unknown name => ν name
  | _, bracketed _ inner => inner.value ν
  | _, applied f argument => f.apply (argument.value ν)
  | _, lone p => p.value ν
  | _, joined p op _ q => op.apply (p.value ν) (q.value ν)

def depth : {n : Nat} → Phrase n → Nat
  | _, number _ => 0
  | _, unknown _ => 0
  | _, bracketed _ inner => inner.depth + 1
  | _, applied _ argument => argument.depth
  | _, lone p => p.depth
  | _, joined p _ _ q => max p.depth q.depth

def unknowns : {n : Nat} → Phrase n → List String
  | _, number _ => []
  | _, unknown name => [name]
  | _, bracketed _ inner => inner.unknowns
  | _, applied _ argument => argument.unknowns
  | _, lone p => p.unknowns
  | _, joined p _ _ q => p.unknowns ++ q.unknowns

def operators : {n : Nat} → Phrase n → List Binary
  | _, number _ => []
  | _, unknown _ => []
  | _, bracketed _ inner => inner.operators
  | _, applied _ argument => argument.operators
  | _, lone p => p.operators
  | _, joined p op _ q => p.operators ++ op :: q.operators

def formula : {n : Nat} → Phrase n → Formula
  | _, number x => .atom (.number x) .nil
  | _, unknown name => .atom (.unknown name) .nil
  | _, bracketed _ inner => .group inner.formula .nil
  | _, applied f argument => .atom (.function f) argument.formula
  | _, lone p => p.formula
  | _, joined p op _ q => p.formula ++ .atom (.binary op) q.formula

variable {n : Nat}

theorem written_formula (p : Phrase n) : p.formula.Written p.tokens := by
  induction p with
  | number x => exact .atom .nil
  | unknown name => exact .atom .nil
  | bracketed b inner ih => exact .group b ih .nil
  | applied f argument ih => exact .atom ih
  | lone p ih => exact ih
  | joined p op h q ih₁ ih₂ => exact ih₁.append (.atom ih₂)

theorem depth_formula (p : Phrase n) : p.formula.depth = p.depth := by
  induction p with
  | number x => rfl
  | unknown name => rfl
  | bracketed b inner ih => simp [formula, depth, Formula.depth, ih]
  | applied f argument ih => exact ih
  | lone p ih => exact ih
  | joined p op h q ih₁ ih₂ =>
    simp only [formula, depth, Formula.depth_append, Formula.depth, ih₁, ih₂]

theorem unknowns_formula (p : Phrase n) : p.formula.unknowns = p.unknowns := by
  induction p with
  | number x => rfl
  | unknown name => rfl
  | bracketed b inner ih => simp [formula, unknowns, Formula.unknowns, ih]
  | applied f argument ih => exact ih
  | lone p ih => exact ih
  | joined p op h q ih₁ ih₂ =>
    simp only [formula, unknowns, Formula.unknowns_append, Formula.unknowns, ih₁, ih₂]

theorem mem_tokens_of_mem_operators {p : Phrase n} {op : Binary} (h : op ∈ p.operators) :
    .atom (.binary op) ∈ p.tokens := by
  induction p with
  | number x => cases h
  | unknown name => cases h
  | bracketed b inner ih => simp [tokens, ih h]
  | applied f argument ih => simp [tokens, ih h]
  | lone p ih => exact ih h
  | joined p op' h' q ih₁ ih₂ =>
    obtain hp | hq := List.mem_append.1 h
    · exact List.mem_append_left _ (ih₁ hp)
    · refine List.mem_append_right _ ?_
      obtain rfl | hq := List.mem_cons.1 hq
      · exact List.mem_cons_self
      · exact List.mem_cons_of_mem _ (ih₂ hq)

/-! Every row that has the shape of a sum is one. -/

def Spells (p : Phrase n) (ts : List Token) (f : Formula) : Prop := p.tokens = ts ∧ p.formula = f

theorem exists_lone (i : Term) (n : Nat) :
    ∃ p : Phrase (n + 1), p.Spells i.tokens i.formula := by
  induction n with
  | zero => exact ⟨i, rfl, rfl⟩
  | succ n ih =>
    obtain ⟨p, hp⟩ := ih
    exact ⟨p.lone, hp⟩

/-- One more operator and term at the right end: they go down to the level where the operator
joins. -/
theorem exists_snoc (p : Phrase n) (op : Binary) (h : op.tier + 2 ≤ n) (i : Term) :
    ∃ q : Phrase n, q.Spells (p.tokens ++ .atom (.binary op) :: i.tokens)
      (p.formula ++ .atom (.binary op) i.formula) := by
  induction p with
  | number x => omega
  | unknown name => omega
  | bracketed b inner _ => omega
  | applied f argument _ => omega
  | @lone n p ih =>
    by_cases hn : op.tier + 1 = n
    · subst hn
      obtain ⟨q, hts, hf⟩ := exists_lone i op.tier
      exact ⟨joined p.lone op rfl q, by simp only [tokens, hts], by simp only [formula, hf]⟩
    · obtain ⟨q, hq⟩ := ih (by omega)
      exact ⟨q.lone, hq⟩
  | @joined n p op' h' q ih₁ ih₂ =>
    by_cases hn : op.tier + 1 = n
    · subst hn
      obtain ⟨r, hts, hf⟩ := exists_lone i op.tier
      exact ⟨joined (joined p op' h' q) op rfl r, by simp only [tokens, hts],
        by simp only [formula, hf]⟩
    · obtain ⟨r, hts, hf⟩ := ih₂ (by omega)
      refine ⟨joined p op' h' r, ?_, ?_⟩
      · simp only [tokens, hts, List.append_assoc, List.cons_append]
      · simp only [formula, hf, Formula.append_assoc, Formula.atom_append]

/-- What has been written up to a place: a sum, or what becomes one with the next value or term. -/
def Pending : Place → List Token → Formula → Prop
  | .start, us, g => ∀ i : Term, ∃ p : Sum, p.Spells (us ++ i.tokens) (g ++ i.formula)
  | .afterOperator, us, g => ∀ v : Value, ∃ p : Sum, p.Spells (us ++ v.tokens) (g ++ v.formula)
  | .afterValue, us, g => ∃ p : Sum, p.Spells us g

theorem pending_nil : Pending .start [] .nil := fun i => exists_lone i 3

variable {us ts : List Token} {f g : Formula} {place : Place}

theorem Pending.value (h : Pending place us g) (hp : place ≠ .afterValue) (v : Value) :
    Pending .afterValue (us ++ v.tokens) (g ++ v.formula) := by
  cases place with
  | start => exact h v.lone
  | afterOperator => exact h v
  | afterValue => exact absurd rfl hp

theorem Pending.function (h : Pending .start us g) (f : Elementary) :
    Pending .afterOperator (us ++ [.atom (.function f)]) (g ++ .atom (.function f) .nil) := by
  intro v
  obtain ⟨p, hts, hf⟩ := h (v.applied f)
  refine ⟨p, ?_, ?_⟩
  · rw [hts, List.append_assoc, tokens, List.singleton_append]
  · rw [hf, Formula.append_assoc, formula, Formula.atom_append, Formula.nil_append]

theorem Pending.operator (h : Pending .afterValue us g) (op : Binary) :
    Pending .start (us ++ [.atom (.binary op)]) (g ++ .atom (.binary op) .nil) := by
  intro i
  obtain ⟨s, rfl, rfl⟩ := h
  have htier := op.tier_lt
  obtain ⟨p, hts, hf⟩ := exists_snoc s op (by omega) i
  refine ⟨p, ?_, ?_⟩
  · rw [hts, List.append_assoc, List.singleton_append]
  · rw [hf, Formula.append_assoc, Formula.atom_append, Formula.nil_append]

theorem Pending.row (h : Pending place us g) (hf : f.Written ts) (hfit : f.Fits .start place) :
    Pending .afterValue (us ++ ts) (g ++ f) := by
  induction hf generalizing place us g with
  | nil =>
    obtain rfl := hfit
    rwa [List.append_nil, Formula.append_nil]
  | @atom a rest ts _ ih =>
    rw [← List.singleton_append, ← List.append_assoc, ← Formula.nil_append rest,
      ← Formula.atom_append, ← Formula.append_assoc]
    cases a with
    | number x => exact ih (h.value hfit.1 (.number x)) hfit.2
    | unknown name => exact ih (h.value hfit.1 (.unknown name)) hfit.2
    | binary op =>
      obtain ⟨rfl, hrest⟩ := hfit
      exact ih (h.operator op) hrest
    | function f =>
      obtain ⟨rfl, hrest⟩ := hfit
      exact ih (h.function f) hrest
  | @group inner rest us' ts b _ _ ih₁ ih₂ =>
    obtain ⟨hp, hinner, hrest⟩ := hfit
    obtain ⟨s, hts, hf⟩ := ih₁ pending_nil hinner
    have hvalue := h.value hp (bracketed b s)
    have hall := ih₂ hvalue hrest
    simpa [tokens, formula, hts, hf, Formula.append_assoc] using hall

theorem exists_of_written (hf : f.Written ts) (hfit : f.Fits .start .start) :
    ∃ p : Sum, p.tokens = ts ∧ p.formula = f := pending_nil.row hf hfit

end Phrase
end Reckon
