import Reckon.Proofs.Balance
import Reckon.Proofs.Shape
import Reckon.Formula.Rendered

/-! What the check reports. Whether an item may stand where it does can be told from the item
directly in front of it, and whether a row may end from its last one. The check reports the first
violation in the order of the text, whatever else is wrong with the formula. -/
namespace Reckon

def Item.isOperator : Item → Bool
  | .atom (.binary _) => true
  | .atom (.function _) => true
  | _ => false

/-- Whether the item may stand directly behind this one, or at the front of a row. A function only
leads a row, a binary operator follows a value, and a value leads or follows an operator. -/
def Item.mayFollow : Item → Option Item → Bool
  | .atom (.function _), front? => front?.isNone
  | .atom (.binary _), front? => front?.any (!·.isOperator)
  | _, front? => front?.all Item.isOperator

def Item.mayEnd (last? : Option Item) : Bool := last?.any (!·.isOperator)

/-- A place where a rule can be broken: an item, with the part of its row in front of it and the
number of groups around, or the end of a row. -/
inductive Spot where
  | item (depth : Nat) (front : Formula) (item : Item)
  | ending (row : Formula)

namespace Spot

/-- A group that stands where it may can still lie inside too many others. -/
def violation? (limit : Int) : Spot → Option Fault
  | item depth front i =>
    if i.mayFollow front.items.getLast? then
      match i with
      | .group => if max limit 0 ≤ depth then some (.tooDeep limit) else none
      | .atom _ => none
    else some (.misplaced i front.length)
  | ending row => if Item.mayEnd row.items.getLast? then none else some .noValueAtEnd

def token : Spot → Token
  | item _ _ (.atom a) => .atom a
  | item _ _ .group => .opening .round
  | ending _ => .closing .round

def row? : Spot → Option (Nat × Item)
  | item depth _ i => some (depth, i)
  | ending _ => none

end Spot

namespace Formula

def spotsBehind : Formula → Nat → Formula → List Spot
  | nil, _, front => [.ending front]
  | atom a rest, depth, front =>
    .item depth front (.atom a) :: rest.spotsBehind depth (front ++ atom a nil)
  | group inner rest, depth, front =>
    .item depth front .group ::
      (inner.spotsBehind (depth + 1) nil ++ rest.spotsBehind depth (front ++ group inner nil))

def spots (f : Formula) : List Spot := f.spotsBehind 0 nil

variable {limit : Int} {depth : Nat} {f front : Formula} {fault : Fault}

theorem items_append (f g : Formula) : (f ++ g).items = f.items ++ g.items := by
  induction f with
  | nil => rfl
  | atom a rest ih => simp only [atom_append, items, ih, List.cons_append]
  | group inner rest _ ih => simp only [group_append, items, ih, List.cons_append]

end Formula

/-! The place of a row is told from the item that was there last. -/

namespace Place

def behind : Option Item → Place
  | none => .start
  | some i => if i.isOperator then .afterOperator else .afterValue

theorem step_behind (i : Item) (front? : Option Item) :
    (behind front?).step i = if i.mayFollow front? then some (behind (some i)) else none := by
  cases front? with
  | none =>
    cases i with
    | group => rfl
    | atom a => cases a <;> rfl
  | some before =>
    cases i with
    | group =>
      cases before with
      | group => rfl
      | atom b => cases b <;> rfl
    | atom a =>
      cases before with
      | group => cases a <;> rfl
      | atom b => cases a <;> cases b <;> rfl

theorem behind_eq_afterValue (last? : Option Item) :
    behind last? = .afterValue ↔ Item.mayEnd last? = true := by
  cases last? with
  | none => simp [behind, Item.mayEnd]
  | some i => cases hi : i.isOperator <;> simp [behind, Item.mayEnd, hi]

end Place

def verdict : Option Fault → Except Fault Unit
  | some fault => .error fault
  | none => .ok ()

theorem verdict_or (fault? other? : Option Fault) :
    verdict (fault?.or other?) = verdict fault? >>= fun _ => verdict other? := by
  cases fault? <;> rfl

namespace Formula

theorem check_eq_verdict (limit : Int) (f : Formula) (depth : Nat) (front : Formula) :
    f.check limit depth (.behind front.items.getLast?) front.length =
      verdict ((f.spotsBehind depth front).findSome? (Spot.violation? limit)) := by
  induction f generalizing depth front with
  | nil =>
    simp only [check, spotsBehind, List.findSome?_cons, List.findSome?_nil, Spot.violation?,
      Place.behind_eq_afterValue]
    cases Item.mayEnd front.items.getLast? <;> rfl
  | atom a rest ih =>
    have hnext := ih depth (front ++ atom a nil)
    rw [items_append, length_append] at hnext
    simp only [items, List.getLast?_concat, length] at hnext
    simp only [check, spotsBehind, List.findSome?_cons, Spot.violation?, Place.step_behind]
    cases (Item.atom a).mayFollow front.items.getLast? with
    | false => rfl
    | true => exact hnext
  | group inner rest ih₁ ih₂ =>
    have hinner := ih₁ (depth + 1) nil
    have hnext := ih₂ depth (front ++ group inner nil)
    rw [items_append, length_append] at hnext
    simp only [items, List.getLast?_concat, length] at hnext
    simp only [check, spotsBehind, List.findSome?_cons, Spot.violation?, Place.step_behind]
    cases Item.group.mayFollow front.items.getLast? with
    | false => rfl
    | true =>
      by_cases hdeep : limit ≤ (depth : Int)
      · have hdeep' : max limit 0 ≤ (depth : Int) := by omega
        simp only [if_true, if_pos hdeep, if_pos hdeep']
        rfl
      · have hroom : ¬ max limit 0 ≤ (depth : Int) := by omega
        simp only [if_true, if_neg hdeep, if_neg hroom, List.findSome?_append, verdict_or,
          ← hinner, ← hnext]
        rfl

theorem validate_eq_verdict (limit : Int) (f : Formula) :
    f.validate limit = verdict (f.spots.findSome? (Spot.violation? limit)) :=
  f.check_eq_verdict limit 0 nil

/-! The spots are those of the formula as it is written: one for each token, and one for the end of
the whole row. -/

theorem token_spotsBehind (f : Formula) (depth : Nat) (front : Formula) :
    (f.spotsBehind depth front).map Spot.token = f.tokens ++ [.closing .round] := by
  induction f generalizing depth front with
  | nil => rfl
  | atom a rest ih =>
    simp only [spotsBehind, List.map_cons, Spot.token, tokens, ih, List.cons_append]
  | group inner rest ih₁ ih₂ =>
    simp only [spotsBehind, List.map_cons, List.map_append, Spot.token, tokens, ih₁, ih₂,
      List.cons_append, List.append_assoc, List.nil_append]

theorem row?_spotsBehind (f : Formula) (depth : Nat) (front : Formula) :
    (f.spotsBehind depth front).filterMap Spot.row? = f.rows depth := by
  induction f generalizing depth front with
  | nil => rfl
  | atom a rest ih => simp only [spotsBehind, List.filterMap_cons, Spot.row?, rows, ih]
  | group inner rest ih₁ ih₂ =>
    simp only [spotsBehind, List.filterMap_cons, List.filterMap_append, Spot.row?, rows, ih₁, ih₂]

theorem row_of_item_mem {f front g : Formula} {depth k : Nat} {i : Item}
    (h : .item k g i ∈ f.spotsBehind depth front) :
    ∃ row ∈ (front ++ f) :: f.groups, ∃ back, row = g ++ back ∧ back.items.head? = some i := by
  induction f generalizing depth front with
  | nil => simp [spotsBehind] at h
  | atom a rest ih =>
    obtain hfirst | hrest := List.mem_cons.1 h
    · cases hfirst
      exact ⟨_, List.mem_cons_self, atom a rest, rfl, rfl⟩
    · have hrow := ih hrest
      rwa [append_assoc] at hrow
  | group inner rest ih₁ ih₂ =>
    obtain hfirst | hlater := List.mem_cons.1 h
    · cases hfirst
      exact ⟨_, List.mem_cons_self, group inner rest, rfl, rfl⟩
    · obtain hinner | hrest := List.mem_append.1 hlater
      · obtain ⟨row, hrow, hback⟩ := ih₁ hinner
        refine ⟨row, List.mem_cons_of_mem _ ?_, hback⟩
        exact List.mem_append_left rest.groups hrow
      · obtain ⟨row, hrow, hback⟩ := ih₂ hrest
        rw [append_assoc] at hrow
        refine ⟨row, ?_, hback⟩
        obtain rfl | hgroups := List.mem_cons.1 hrow
        · exact List.mem_cons_self
        · exact List.mem_cons_of_mem _ (List.mem_append_right (inner :: inner.groups) hgroups)

theorem ending_mem_iff {f front row : Formula} {depth : Nat} :
    .ending row ∈ f.spotsBehind depth front ↔ row ∈ (front ++ f) :: f.groups := by
  induction f generalizing depth front with
  | nil => simp [spotsBehind, groups]
  | atom a rest ih => simp [spotsBehind, groups, ih, append_assoc]
  | group inner rest ih₁ ih₂ =>
    simp only [spotsBehind, groups, List.mem_cons, List.mem_append, ih₁, ih₂, append_assoc,
      group_append, nil_append, reduceCtorEq, false_or]
    grind

/-- The check passes if there is no violation, and otherwise reports the first one in the order of
the text. Each item is judged by the one directly in front of it in its row and by the number of
groups around it, and each row by its last item. -/
theorem validate_reports_first_violation (limit : Int) (f : Formula) :
    (f.validate limit = .ok () ↔ ∀ s ∈ f.spots, s.violation? limit = none) ∧
    (∀ fault, f.validate limit = .error fault ↔ ∃ before s after,
      f.spots = before ++ s :: after ∧ (∀ r ∈ before, r.violation? limit = none) ∧
        s.violation? limit = some fault) ∧
    f.spots.map Spot.token = f.tokens ++ [.closing .round] ∧
    f.spots.filterMap Spot.row? = f.rows 0 ∧
    (∀ depth front i, .item depth front i ∈ f.spots →
      ∃ row ∈ f :: f.groups, ∃ back, row = front ++ back ∧ back.items.head? = some i) ∧
    ∀ row, .ending row ∈ f.spots ↔ row ∈ f :: f.groups := by
  refine ⟨?_, ?_, f.token_spotsBehind 0 nil, f.row?_spotsBehind 0 nil,
    fun _ _ _ => row_of_item_mem, fun _ => ending_mem_iff⟩
  · rw [validate_eq_verdict, ← List.findSome?_eq_none_iff]
    cases f.spots.findSome? (Spot.violation? limit) <;> simp [verdict]
  · intro fault
    rw [validate_eq_verdict]
    constructor
    · intro h
      cases hfirst : f.spots.findSome? (Spot.violation? limit) with
      | none =>
        rw [hfirst] at h
        cases h
      | some other =>
        rw [hfirst] at h
        cases h
        obtain ⟨before, s, after, hspots, hs, hbefore⟩ := List.findSome?_eq_some_iff.1 hfirst
        exact ⟨before, s, after, hspots, hbefore, hs⟩
    · intro h
      obtain ⟨before, s, after, hspots, hbefore, hs⟩ := h
      rw [List.findSome?_eq_some_iff.2 ⟨before, s, after, hspots, hs, hbefore⟩]
      rfl

/-- `((x) +) 2` under the limit 2: the operator that nothing follows is in a group, and so its row
ends before the `2` that nothing leads to is reached. Under the limit 1 the group around `x` is too
deep, and that comes first. -/
theorem validate_reports_row_end_in_group :
    let x := atom (.unknown "x") nil
    let inner := group x (atom (.binary .add) nil)
    let f := group inner (atom (.number 2) nil)
    let two : Spot := .item 0 (group inner nil) (.atom (.number 2))
    f.validate 2 = .error .noValueAtEnd ∧ f.validate 1 = .error (.tooDeep 1) ∧
      two ∈ f.spots ∧ two.violation? 2 = some (.misplaced (.atom (.number 2)) 1) ∧
      ∃ row ∈ f :: f.groups, ∃ back, row = group inner nil ++ back ∧
        back.items.head? = some (.atom (.number 2)) := by
  intro x inner f two
  let before : List Spot := [.item 0 nil .group, .item 1 nil .group,
    .item 2 nil (.atom (.unknown "x")), .ending x, .item 1 (group x nil) (.atom (.binary .add))]
  have hspots : f.spots = before ++ .ending inner :: [two, .ending f] := rfl
  have hbefore : ∀ r ∈ before, r.violation? 2 = none := by
    simp only [before, List.forall_mem_cons]
    exact ⟨rfl, rfl, rfl, rfl, rfl, by simp⟩
  have houter : ∀ r ∈ [Spot.item 0 nil .group], r.violation? 1 = none :=
    List.forall_mem_singleton.2 rfl
  have htwo : two ∈ f.spots := by simp [hspots]
  obtain ⟨-, hroom, -, -, hrow, -⟩ := validate_reports_first_violation 2 f
  obtain ⟨-, htight, -⟩ := validate_reports_first_violation 1 f
  exact ⟨(hroom _).2 ⟨before, _, _, hspots, hbefore, rfl⟩, (htight _).2 ⟨_, _, _, rfl, houter, rfl⟩,
    htwo, rfl, hrow _ _ _ htwo⟩

end Formula
end Reckon
