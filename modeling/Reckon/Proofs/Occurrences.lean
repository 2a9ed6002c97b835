import Mathlib.Data.List.Sort
import Reckon.Proofs.Pasting

/-! How often names occur when one of them has been bound to a formula. Each of its occurrences
gives way to a whole copy, with all that occurs in it, and the copies are not searched; so it makes
no difference whether the name occurs in them as well, or whether a formula is put into itself. -/
namespace Reckon

theorem Atom.stays_of_ne {a : Atom} {name : String} (h : a ≠ .unknown name) (e : Entry) :
    a.replacement? (.single name e) = none := (a.eq_unknown_or_stays name).resolve_left h e

theorem Token.isUnknown_eq_false {a : Atom} {name : String} (h : a ≠ .unknown name) :
    (Token.atom a).isUnknown name = false := by
  refine Bool.eq_false_iff.2 fun hname => h ?_
  simpa using Token.eq_of_isUnknown hname

namespace Formula
variable {name : String}

theorem occurrences_self (rest : Formula) (name : String) :
    (atom (.unknown name) rest).occurrences name = rest.occurrences name + 1 :=
  List.count_cons_self

theorem occurrences_of_ne {a : Atom} (h : a ≠ .unknown name) (rest : Formula) :
    (atom a rest).occurrences name = rest.occurrences name := by
  cases a with
  | unknown other => exact List.count_cons_of_ne fun hother => h (congrArg _ hother)
  | number x => rfl
  | binary op => rfl
  | function g => rfl

theorem occurrences_group (inner rest : Formula) (name : String) :
    (group inner rest).occurrences name = inner.occurrences name + rest.occurrences name :=
  List.count_append

/-- The search puts the entry in wherever the name occurs, and counts all of these places. -/
theorem substitute_eq (name : String) (e : Entry) (f : Formula) :
    f.substitute name e = (f.replace (.single name e), f.occurrences name) := by
  induction f with
  | nil => rfl
  | atom a rest ih =>
    by_cases ha : a = .unknown name
    · subst ha
      have hfound : (Atom.unknown name).replacement? (.single name e) = some e :=
        Assignment.single_self name e
      simp only [substitute, ih, hfound, replace_found hfound, occurrences_self]
    · have hstays := Atom.stays_of_ne ha e
      simp only [substitute, ih, hstays, replace_stays hstays, occurrences_of_ne ha]
  | group inner rest ih₁ ih₂ =>
    simp only [substitute, ih₁, ih₂, replace_group, occurrences_group]

theorem occurrences_eq_countP_tokens (f : Formula) (name : String) :
    f.occurrences name = f.tokens.countP (Token.isUnknown name) := by
  induction f with
  | nil => rfl
  | atom a rest ih =>
    by_cases ha : a = .unknown name
    · subst ha
      have hname : (Token.atom (.unknown name)).isUnknown name = true := by simp [Token.isUnknown]
      rw [occurrences_self, tokens, List.countP_cons_of_pos hname, ih]
    · have hother := Bool.eq_false_iff.1 (Token.isUnknown_eq_false ha)
      rw [occurrences_of_ne ha, tokens, List.countP_cons_of_neg hother, ih]
  | group inner rest ih₁ ih₂ =>
    rw [occurrences_group, tokens, ih₁, ih₂]
    simp [Token.isUnknown]

theorem bindFormula_of_ne {a : Atom} (h : a ≠ .unknown name) (rest g : Formula) :
    (atom a rest).bindFormula name g = atom a (rest.bindFormula name g) :=
  replace_stays (Atom.stays_of_ne h _) rest

theorem bindFormula_group (inner rest : Formula) (name : String) (g : Formula) :
    (group inner rest).bindFormula name g =
      group (inner.bindFormula name g) (rest.bindFormula name g) := rfl

theorem tokens_bindFormula (f g : Formula) (name : String) :
    (f.bindFormula name g).tokens = f.tokens.flatMap (Token.pasted name g.tokens) := by
  induction f with
  | nil => rfl
  | atom a rest ih =>
    by_cases ha : a = .unknown name
    · subst ha
      have hpasted : (Token.atom (.unknown name)).pasted name g.tokens =
          .opening .round :: (g.tokens ++ [.closing .round]) := if_pos (by simp [Token.isUnknown])
      rw [bindFormula_self, tokens, tokens, ih, List.flatMap_cons, hpasted]
      simp
    · have hpasted : (Token.atom a).pasted name g.tokens = [.atom a] :=
        if_neg (Bool.eq_false_iff.1 (Token.isUnknown_eq_false ha))
      rw [bindFormula_of_ne ha, tokens, tokens, ih, List.flatMap_cons, hpasted,
        List.singleton_append]
  | group inner rest ih₁ ih₂ =>
    rw [bindFormula_group, tokens, tokens, ih₁, ih₂]
    simp [Token.pasted, Token.isUnknown]

theorem occurrences_bindFormula (f g : Formula) (name other : String) :
    (f.bindFormula name g).occurrences other =
      (if other = name then 0 else f.occurrences other) +
        f.occurrences name * g.occurrences other := by
  induction f with
  | nil => simp [bindFormula, occurrences, unknowns]
  | atom a rest ih =>
    by_cases ha : a = .unknown name
    · subst ha
      rw [bindFormula_self, occurrences_group, occurrences_self, ih, Nat.add_mul, Nat.one_mul]
      by_cases hother : other = name
      · rw [if_pos hother, if_pos hother]
        omega
      · have hne : Atom.unknown name ≠ .unknown other := by simpa using Ne.symm hother
        rw [if_neg hother, if_neg hother, occurrences_of_ne hne]
        omega
    · rw [bindFormula_of_ne ha, occurrences_of_ne ha]
      by_cases hother : a = .unknown other
      · subst hother
        have hne : other ≠ name := by simpa using ha
        rw [occurrences_self, occurrences_self, ih, if_neg hne, if_neg hne]
        omega
      · rw [occurrences_of_ne hother, occurrences_of_ne hother, ih]
  | group inner rest ih₁ ih₂ =>
    rw [bindFormula_group, occurrences_group, occurrences_group, occurrences_group, ih₁, ih₂,
      Nat.add_mul]
    split
    · omega
    · omega

end Formula

namespace Expression
variable {a b : Expression} {x : String}

theorem occurrences_pos_iff {e : Expression} {name : String} :
    0 < e.formula.occurrences name ↔ name ∈ e.unresolved := by
  rw [unresolved, Formula.mem_unresolved, Formula.occurrences, List.count_pos_iff]

theorem mem_unresolved_bindExpression {name : String} :
    name ∈ (a.bindExpression x b).unresolved ↔
      name ≠ x ∧ name ∈ a.unresolved ∨ x ∈ a.unresolved ∧ name ∈ b.unresolved := by
  have hcount : (a.bindExpression x b).formula.occurrences name =
      (if name = x then 0 else a.formula.occurrences name) +
        a.formula.occurrences x * b.formula.occurrences name :=
    a.formula.occurrences_bindFormula b.formula x name
  have hcopies : 0 < a.formula.occurrences x * b.formula.occurrences name ↔
      0 < a.formula.occurrences x ∧ 0 < b.formula.occurrences name :=
    ⟨fun h => ⟨Nat.pos_of_mul_pos_right h, Nat.pos_of_mul_pos_left h⟩,
      fun h => Nat.mul_pos h.1 h.2⟩
  rw [← occurrences_pos_iff, ← occurrences_pos_iff, ← occurrences_pos_iff, ← occurrences_pos_iff,
    hcount]
  by_cases hname : name = x
  · rw [if_pos hname, Nat.zero_add, hcopies]
    simp [hname]
  · rw [if_neg hname, Nat.add_pos_iff_pos_or_pos, hcopies]
    simp [hname]

theorem unresolved_bindExpression (a b : Expression) (x : String) :
    (a.bindExpression x b).unresolved =
      if x ∈ a.unresolved then Text.ascending (a.unresolved.filter (· ≠ x) ++ b.unresolved)
      else a.unresolved := by
  have hafter : (a.bindExpression x b).unresolved.Pairwise (· < ·) := Text.pairwise_ascending _
  split
  · next hx =>
    refine hafter.eq_of_mem_iff (Text.pairwise_ascending _) fun name => ?_
    rw [mem_unresolved_bindExpression, Text.mem_ascending, List.mem_append, List.mem_filter,
      decide_eq_true_iff]
    simp only [hx, true_and, and_comm]
  · next hx =>
    refine hafter.eq_of_mem_iff (Text.pairwise_ascending _) fun name => ?_
    have hne : name ∈ a.unresolved → name ≠ x := fun hname heq => hx (heq ▸ hname)
    rw [mem_unresolved_bindExpression]
    simp only [hx, false_and, or_false]
    exact and_iff_right_of_imp hne

/-- What it does to bind a name to an expression, the same one included: each place of the name, and
nothing else, becomes a group with a copy of the other expression as it was before, so its names
come in once for each of these places. -/
theorem bindExpression_at_every_place (a b : Expression) (x : String) :
    a.formula.substitute x (.group b.formula) =
      ((a.bindExpression x b).formula, a.formula.occurrences x) ∧
    a.formula.occurrences x = a.formula.tokens.countP (Token.isUnknown x) ∧
    (a.bindExpression x b).formula.tokens =
      a.formula.tokens.flatMap (Token.pasted x b.formula.tokens) ∧
    (a.bindExpression x b).settings = a.settings ∧
    (a.bindExpression x b).unresolved =
      (if x ∈ a.unresolved then Text.ascending (a.unresolved.filter (· ≠ x) ++ b.unresolved)
      else a.unresolved) ∧
    (x ∈ (a.bindExpression x b).unresolved ↔
      0 < a.formula.occurrences x ∧ x ∈ b.unresolved) ∧
    (∀ y, y ≠ x → (a.bindExpression x b).formula.occurrences y =
      a.formula.occurrences y + a.formula.occurrences x * b.formula.occurrences y) ∧
    (a.bindExpression x b).formula.occurrences x =
      a.formula.occurrences x * b.formula.occurrences x := by
  have hcount := a.formula.occurrences_bindFormula b.formula x
  refine ⟨a.formula.substitute_eq x _, a.formula.occurrences_eq_countP_tokens x,
    a.formula.tokens_bindFormula b.formula x, rfl, unresolved_bindExpression a b x, ?_, ?_, ?_⟩
  · rw [mem_unresolved_bindExpression, occurrences_pos_iff]
    simp
  · intro y hy
    have hother := hcount y
    rwa [if_neg hy] at hother
  · have hself := hcount x
    rwa [if_pos rfl, Nat.zero_add] at hself

/-- `x * (y - x)` put into itself, in a slot of its own: of the four places where `x` is by then,
none has been searched for a second time. -/
theorem bindExpression_into_itself :
    let f := Formula.atom (.unknown "x") (.atom (.binary .multiply) (.group
      (.atom (.unknown "y") (.atom (.binary .subtract) (.atom (.unknown "x") .nil))) .nil))
    let a : Expression := ⟨f, .standard⟩
    let after := a.bindExpression "x" a
    (Workspace.perform [("a", a)] ⟨"a", .bindExpression "x" "a"⟩).2.get? "a" = some after ∧
      (f.substitute "x" (.group f)).2 = 2 ∧ after.formula.occurrences "x" = 2 * 2 ∧
      "y" ≠ "x" ∧ after.formula.occurrences "y" = 1 + 2 * 1 ∧
      after.unresolved = ["x", "y"] := by
  intro f a after
  have hne : "y" ≠ "x" := by decide
  obtain ⟨hsearch, -, -, -, hleft, -, hother, hself⟩ := bindExpression_at_every_place a a "x"
  exact ⟨rfl, congrArg Prod.snd hsearch, hself, hne, hother "y" hne, hleft⟩

end Expression
end Reckon
