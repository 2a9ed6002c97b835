import Reckon.Proofs.Shape

/-! Which of several faults evaluation reports. A group is entered where it opens and brought to a
number where it closes; these events follow each other as the brackets do in the text, the whole row
closes last, and the first of them that fails is what there is to report. -/
namespace Reckon

/-- A group that opens inside so many others, or a row that ends. -/
inductive Event where
  | opening (depth : Nat)
  | closing (row : Formula)

namespace Formula

def nodes? : Formula → Option (List Atom)
  | nil => some []
  | atom a rest => (nodes? rest).map (a :: ·)
  | group inner rest =>
    match (nodes? inner).map reduce with
    | some (.ok x) => (nodes? rest).map (.number x :: ·)
    | _ => none

def groupEvents (depth : Nat) : Formula → List Event
  | nil => []
  | atom _ rest => groupEvents depth rest
  | group inner rest =>
    .opening depth :: (groupEvents (depth + 1) inner ++ .closing inner :: groupEvents depth rest)

def events (f : Formula) : List Event := f.groupEvents 0 ++ [.closing f]

end Formula

/-- What is wrong at an event, if anything is. A row with a group that came to nothing never gets to
its end, so there is nothing to say of it. -/
def Event.fault? (limit : Int) : Event → Option Fault
  | opening depth => if max limit 0 ≤ depth then some (.tooDeep limit) else none
  | closing row =>
    match row.nodes?.map reduce with
    | some (.error fault) => some fault
    | _ => none

def firstFault? (limit : Int) (es : List Event) : Option Fault := es.findSome? (Event.fault? limit)

namespace Formula
open Outcome
variable {limit : Int} {depth : Nat} {f inner rest : Formula} {as : List Atom} {fault : Fault}

theorem groupEvents_append (depth : Nat) (f g : Formula) :
    (f ++ g).groupEvents depth = f.groupEvents depth ++ g.groupEvents depth := by
  induction f with
  | nil => rfl
  | atom a rest ih => exact ih
  | group inner rest _ ih =>
    simp only [group_append, groupEvents, ih, List.cons_append, List.append_assoc]

theorem fault?_opening_deep (h : limit ≤ depth) :
    (Event.opening depth).fault? limit = some (.tooDeep limit) := if_pos (by omega)

theorem fault?_opening (h : (depth : Int) < limit) :
    (Event.opening depth).fault? limit = none := if_neg (by omega)

theorem fault?_closing_error (hf : f.nodes? = some as) (has : reduce as = .error fault) :
    (Event.closing f).fault? limit = some fault := by
  simp only [Event.fault?, hf, Option.map_some, has]

theorem fault?_closing_ok {x : Float} (hf : f.nodes? = some as) (has : reduce as = .ok x) :
    (Event.closing f).fault? limit = none := by
  simp only [Event.fault?, hf, Option.map_some, has]

theorem nodes?_group {us : List Atom} {x : Float} (hinner : inner.nodes? = some us)
    (hx : reduce us = .ok x) (hrest : rest.nodes? = some as) :
    (group inner rest).nodes? = some (.number x :: as) := by
  simp only [nodes?, hinner, Option.map_some, hx, hrest]

theorem settle_of_events (limit : Int) (f : Formula) (depth : Nat) :
    (∀ fault, firstFault? limit (f.groupEvents depth) = some fault →
      settle limit depth f = .error fault) ∧
    (firstFault? limit (f.groupEvents depth) = none →
      ∃ as, f.nodes? = some as ∧ settle limit depth f = .ok as) := by
  induction f generalizing depth with
  | nil =>
    constructor
    · intro fault h
      cases h
    · intro _
      exact ⟨[], rfl, rfl⟩
  | atom a rest ih =>
    obtain ⟨hfault, hnone⟩ := ih depth
    rw [settle_atom]
    constructor
    · intro fault h
      rw [hfault fault h, map_error]
    · intro h
      obtain ⟨as, has, hsettle⟩ := hnone h
      exact ⟨a :: as, by rw [nodes?, has, Option.map_some], by rw [hsettle, map_ok]⟩
  | group inner rest ih₁ ih₂ =>
    obtain ⟨hfault₁, hnone₁⟩ := ih₁ (depth + 1)
    obtain ⟨hfault₂, hnone₂⟩ := ih₂ depth
    simp only [firstFault?] at hfault₁ hnone₁ hfault₂ hnone₂
    simp only [firstFault?, groupEvents, List.findSome?_cons, List.findSome?_append]
    by_cases hd : (depth : Int) < limit
    · rw [fault?_opening hd, settle_group hd]
      cases hinner : (inner.groupEvents (depth + 1)).findSome? (Event.fault? limit) with
      | some fault => simp [hfault₁ fault hinner]
      | none =>
        obtain ⟨us, hus, hsettle⟩ := hnone₁ hinner
        rw [hsettle, ok_bind]
        cases hx : reduce us with
        | error fault => simp [fault?_closing_error hus hx]
        | ok x =>
          simp only [fault?_closing_ok hus hx, Option.none_or, ok_bind]
          constructor
          · intro fault h
            rw [hfault₂ fault h, map_error]
          · intro h
            obtain ⟨as, has, hrest⟩ := hnone₂ h
            exact ⟨.number x :: as, nodes?_group hus hx has, by rw [hrest, map_ok]⟩
    · have hdeep := Int.not_lt.1 hd
      rw [fault?_opening_deep hdeep, settle_group_deep hdeep]
      simp

theorem evaluate_of_events (f : Formula) :
    (∀ fault, firstFault? limit f.events = some fault → f.evaluate limit = .error fault) ∧
    (firstFault? limit f.events = none →
      ∃ as x, f.nodes? = some as ∧ reduce as = .ok x ∧ f.evaluate limit = .ok x) := by
  obtain ⟨hfault, hnone⟩ := settle_of_events limit f 0
  simp only [firstFault?] at hfault hnone
  simp only [firstFault?, events, List.findSome?_append, List.findSome?_cons, List.findSome?_nil,
    evaluate]
  cases hgroups : (f.groupEvents 0).findSome? (Event.fault? limit) with
  | some fault => simp [hfault fault hgroups]
  | none =>
    obtain ⟨as, has, hsettle⟩ := hnone hgroups
    rw [hsettle, ok_bind]
    cases hx : reduce as with
    | error fault => simp [fault?_closing_error has hx]
    | ok x => simp [fault?_closing_ok has hx, has, hx]

theorem firstFault?_of_split {es before after : List Event} {e : Event}
    (hes : es = before ++ e :: after) (hbefore : ∀ d ∈ before, d.fault? limit = none)
    (he : e.fault? limit = some fault) : firstFault? limit es = some fault := by
  subst hes
  have hnone : before.findSome? (Event.fault? limit) = none := List.findSome?_eq_none_iff.2 hbefore
  rw [firstFault?, List.findSome?_append, hnone, Option.none_or, List.findSome?_cons, he]

def eventsOfGroup (depth : Nat) (inner : Formula) : List Event :=
  .opening depth :: (inner.groupEvents (depth + 1) ++ [.closing inner])

theorem exists_groupEvents_eq {row : Formula} (h : row ∈ f.groups) (depth : Nat) :
    ∃ depth' before after,
      f.groupEvents depth = before ++ (row.groupEvents depth' ++ .closing row :: after) := by
  induction f generalizing depth with
  | nil => cases h
  | atom a rest ih => exact ih h depth
  | group inner rest ih₁ ih₂ =>
    rw [groups, List.mem_cons, List.mem_append] at h
    obtain rfl | hinner | hrest := h
    · exact ⟨depth + 1, [.opening depth], rest.groupEvents depth, rfl⟩
    · obtain ⟨depth', before, after, heq⟩ := ih₁ hinner (depth + 1)
      refine ⟨depth', .opening depth :: before,
        after ++ .closing inner :: rest.groupEvents depth, ?_⟩
      simp only [groupEvents, heq, List.cons_append, List.append_assoc]
    · obtain ⟨depth', before, after, heq⟩ := ih₂ hrest depth
      refine ⟨depth', .opening depth :: (inner.groupEvents (depth + 1) ++ .closing inner :: before),
        after, ?_⟩
      simp only [groupEvents, heq, List.cons_append, List.append_assoc]

/-- Wherever a group stands, behind its events come those of what is behind it in its row, and the
end of the row comes after these. -/
theorem exists_events_eq {g inner h : Formula} (hrow : g ++ group inner h ∈ f :: f.groups) :
    ∃ depth before after, f.events = before ++ eventsOfGroup depth inner ++
      (h.groupEvents depth ++ .closing (g ++ group inner h) :: after) := by
  have hsplit : ∃ depth before after, f.events = before ++
      ((g ++ group inner h).groupEvents depth ++ .closing (g ++ group inner h) :: after) := by
    obtain rfl | hmem := List.mem_cons.1 hrow
    · exact ⟨0, [], [], rfl⟩
    · obtain ⟨depth, before, after, heq⟩ := exists_groupEvents_eq hmem 0
      exact ⟨depth, before, after ++ [.closing f], by simp [events, heq]⟩
  obtain ⟨depth, before, after, heq⟩ := hsplit
  refine ⟨depth, before ++ g.groupEvents depth, after, ?_⟩
  rw [heq, groupEvents_append]
  simp [groupEvents, eventsOfGroup]

/-- Evaluation fails with the first event that fails, in the order of the text, and if none does it
gives the value at the end of the row. So a fault in a group, wherever it stands, comes before any
behind the group and before those of the operators around it. -/
theorem evaluate_fails_at_first (limit : Int) (f : Formula) :
    (∀ before e after fault, f.events = before ++ e :: after →
      (∀ d ∈ before, d.fault? limit = none) → e.fault? limit = some fault →
        f.evaluate limit = .error fault) ∧
    ((∀ e ∈ f.events, e.fault? limit = none) →
      ∃ as x, f.nodes? = some as ∧ reduce as = .ok x ∧ f.evaluate limit = .ok x) ∧
    (∀ g inner h, g ++ group inner h ∈ f :: f.groups →
      ∃ depth before after, f.events = before ++ eventsOfGroup depth inner ++
        (h.groupEvents depth ++ .closing (g ++ group inner h) :: after) ∧
      ∀ fault, firstFault? limit (before ++ eventsOfGroup depth inner) = some fault →
        f.evaluate limit = .error fault) := by
  refine ⟨?_, ?_, ?_⟩
  · intro before e after fault hes hbefore he
    exact (evaluate_of_events f).1 fault (firstFault?_of_split hes hbefore he)
  · intro hall
    exact (evaluate_of_events f).2 (List.findSome?_eq_none_iff.2 hall)
  · intro g inner h hrow
    obtain ⟨depth, before, after, hes⟩ := exists_events_eq hrow
    refine ⟨depth, before, after, hes, fun fault hfault => (evaluate_of_events f).1 fault ?_⟩
    rw [hes, firstFault?, List.findSome?_append, ← firstFault?, hfault, Option.some_or]

/-- `((2 3) / x) + (((5)))` under the limit 2: that `2` and `3` have nothing between them comes
before the unknown in the group around them, and before the brackets behind, which are too deep. -/
theorem evaluate_adjacent_before_deep :
    let adjacent := atom (.number 2) (atom (.number 3) nil)
    let quotient := group adjacent (atom (.binary .divide) (atom (.unknown "x") nil))
    let deep := group (group (group (atom (.number 5) nil) nil) nil) nil
    let f := group quotient (atom (.binary .add) deep)
    f.events = [.opening 0, .opening 1] ++ .closing adjacent :: ([.closing quotient] ++
      (deep.groupEvents 0 ++ [.closing f])) ∧
    (Event.opening 2).fault? 2 = some (.tooDeep 2) ∧
    f.evaluate 2 = .error (.leftOver [.number 2, .number 3]) := by
  intro adjacent quotient deep f
  have hes : f.events = [.opening 0, .opening 1] ++ .closing adjacent :: ([.closing quotient] ++
      (deep.groupEvents 0 ++ [.closing f])) := rfl
  have hopen : ∀ d ∈ [Event.opening 0, .opening 1], d.fault? 2 = none := by
    simp [fault?_opening]
  exact ⟨hes, rfl, (evaluate_fails_at_first 2 f).1 _ _ _ _ hes hopen rfl⟩

end Formula
end Reckon
