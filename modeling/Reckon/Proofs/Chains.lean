import Reckon.Proofs.Meaning

/-! The value of a formula from its groups alone. A row of operands with operators between them is a
chain; its runs of powers and roots are folded first, then its runs of products and quotients, then
what is left, each from left to right. The passes of evaluation, which rewrite the row as they go
along it, come to the same. -/
namespace Reckon

structure Chain (α : Type) where
  first : α
  more : List (Binary × α)

namespace Chain
variable {α β : Type} {tier : Nat}

def map (f : α → β) (c : Chain α) : Chain β := ⟨f c.first, c.more.map (Prod.map id f)⟩

def operators (c : Chain α) : List Binary := c.more.map Prod.fst

/-- From left to right, whatever the operators are. -/
def fold (c : Chain Float) : Float := c.more.foldl (fun x (op, y) => op.apply x y) c.first

/-- The maximal runs that operators of the tier hold together, from an operand on. All other
operators stand between runs. -/
def runsFrom (tier : Nat) (a : α) : List (Binary × α) → Chain (Chain α)
  | [] => ⟨⟨a, []⟩, []⟩
  | (op, b) :: more =>
    let later := runsFrom tier b more
    if op.tier = tier then ⟨⟨a, (op, b) :: later.first.more⟩, later.more⟩
    else ⟨⟨a, []⟩, (op, later.first) :: later.more⟩

def runs (tier : Nat) (c : Chain α) : Chain (Chain α) := runsFrom tier c.first c.more

def foldRuns (tier : Nat) (c : Chain Float) : Chain Float := (c.runs tier).map fold

def value (c : Chain Float) : Float := ((c.foldRuns 0).foldRuns 1).fold

def row (c : Chain Float) : List Atom :=
  .number c.first :: c.more.flatMap fun (op, y) => [.binary op, .number y]

/-! Folding a run takes its operators out of the chain and leaves all others where they are. -/

theorem runsFrom_same {op : Binary} (h : op.tier = tier) (a b : α) (more : List (Binary × α)) :
    runsFrom tier a ((op, b) :: more) =
      ⟨⟨a, (op, b) :: (runsFrom tier b more).first.more⟩, (runsFrom tier b more).more⟩ := if_pos h

theorem runsFrom_other {op : Binary} (h : op.tier ≠ tier) (a b : α) (more : List (Binary × α)) :
    runsFrom tier a ((op, b) :: more) =
      ⟨⟨a, []⟩, (op, (runsFrom tier b more).first) :: (runsFrom tier b more).more⟩ := if_neg h

theorem runsFrom_eq (tier : Nat) (a b : α) (more : List (Binary × α)) :
    runsFrom tier a more =
      ⟨⟨a, (runsFrom tier b more).first.more⟩, (runsFrom tier b more).more⟩ := by
  cases more with
  | nil => rfl
  | cons next more =>
    obtain ⟨op, y⟩ := next
    by_cases h : op.tier = tier
    · rw [runsFrom_same h, runsFrom_same h]
    · rw [runsFrom_other h, runsFrom_other h]

theorem operators_runs (tier : Nat) (c : Chain α) :
    (c.runs tier).operators = c.operators.filter (·.tier ≠ tier) := by
  obtain ⟨a, more⟩ := c
  induction more generalizing a with
  | nil => rfl
  | cons next more ih =>
    obtain ⟨op, b⟩ := next
    have hb := ih b
    by_cases h : op.tier = tier
    · simpa [runs, operators, runsFrom_same h, h] using hb
    · simpa [runs, operators, runsFrom_other h, h] using hb

theorem operators_map (f : α → β) (c : Chain α) : (c.map f).operators = c.operators := by
  simp [operators, map]

theorem operators_foldRuns (tier : Nat) (c : Chain Float) :
    (c.foldRuns tier).operators = c.operators.filter (·.tier ≠ tier) := by
  rw [foldRuns, operators_map, operators_runs]

theorem foldRuns_same {op : Binary} (h : op.tier = tier) (x y : Float)
    (more : List (Binary × Float)) :
    foldRuns tier ⟨x, (op, y) :: more⟩ = foldRuns tier ⟨op.apply x y, more⟩ := by
  simp only [foldRuns, runs, runsFrom_same h, runsFrom_eq tier (op.apply x y) y more]
  rfl

theorem foldRuns_other {op : Binary} (h : op.tier ≠ tier) (x y : Float)
    (more : List (Binary × Float)) :
    foldRuns tier ⟨x, (op, y) :: more⟩ =
      ⟨x, (op, (foldRuns tier ⟨y, more⟩).first) :: (foldRuns tier ⟨y, more⟩).more⟩ := by
  simp only [foldRuns, runs, runsFrom_other h]
  rfl

theorem foldRuns_of_all {c : Chain Float} (h : ∀ op ∈ c.operators, op.tier = tier) :
    c.foldRuns tier = ⟨c.fold, []⟩ := by
  obtain ⟨x, more⟩ := c
  induction more generalizing x with
  | nil => rfl
  | cons next more ih =>
    obtain ⟨op, y⟩ := next
    obtain ⟨hop, hmore⟩ := List.forall_mem_cons.1 h
    rw [foldRuns_same hop, ih (op.apply x y) hmore]
    rfl

theorem foldRuns_last (c : Chain Float) :
    ((c.foldRuns 0).foldRuns 1).foldRuns 2 = ⟨c.value, []⟩ := by
  refine foldRuns_of_all fun op hop => ?_
  rw [operators_foldRuns, operators_foldRuns, List.mem_filter, List.mem_filter] at hop
  have hlt := op.tier_lt
  simp only [ne_eq, decide_eq_true_eq] at hop
  omega

/-! The passes. -/

theorem applyTier_more (tier : Nat) (x : Float) (more : List (Binary × Float)) :
    applyTier tier (some (.number x)) (more.flatMap fun (op, y) => [.binary op, .number y]) =
      .ok (foldRuns tier ⟨x, more⟩).row := by
  induction more generalizing x with
  | nil => rfl
  | cons next more ih =>
    obtain ⟨op, y⟩ := next
    rw [List.flatMap_cons, List.cons_append, List.cons_append, List.nil_append]
    by_cases h : op.tier = tier
    · rw [applyTier_same h, ih, foldRuns_same h]
    · rw [applyTier_other h, applyTier_operand (by simp), ih, foldRuns_other h]
      rfl

theorem applyTier_row (tier : Nat) (c : Chain Float) :
    applyTier tier none c.row = .ok (c.foldRuns tier).row := by
  rw [row, applyTier_first (by simp), applyTier_more]

end Chain
end Reckon
