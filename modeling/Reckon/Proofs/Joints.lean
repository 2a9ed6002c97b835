import Mathlib.Data.List.Chain
import Reckon.Proofs.Likeness
import Reckon.Proofs.Worth

/-! What is wrong with a row without groups, told from how it stands there, before any of it is
carried out. First come functions without a number behind them, from left to right; then operators
without numbers beside them, tier by tier and from left to right; then whatever cannot be joined. No
operator that is carried out makes a difference to any other. -/
namespace Reckon
open Outcome

/-! Functions. -/

def Served (as : List Atom) : Prop :=
  ∀ us f vs, as = us ++ .function f :: vs → ∃ x ws, vs = .number x :: ws

def collapse : List Atom → List Atom
  | .function f :: .number x :: rest => .number (f.apply x) :: collapse rest
  | a :: rest => a :: collapse rest
  | [] => []

def argumentFault (f : Elementary) : List Atom → Fault
  | [] => .noArgument f
  | .unknown name :: _ => .unsetUnknown name
  | a :: _ => .badArgument f a

def FirstIdle (as : List Atom) (f : Elementary) (vs : List Atom) : Prop :=
  (∃ us, as = us ++ .function f :: vs ∧ Served us) ∧ ∀ x ws, vs ≠ .number x :: ws

/-! Operators. -/

/-- What stands on one side of an operator, as far as that matters. -/
inductive Side where
  | edge
  | number
  | other (a : Atom)

def Side.of : Option Atom → Side
  | none => edge
  | some (.number _) => number
  | some a => other a

/-- An operator in a row, with its two sides. -/
structure Joint where
  left : Side
  op : Binary
  right : Side

def joints (left : Side) : List Atom → List Joint
  | [] => []
  | .binary op :: rest => ⟨left, op, .of rest.head?⟩ :: joints (.other (.binary op)) rest
  | a :: rest => joints (.of (some a)) rest

namespace Joint

def Sound (j : Joint) : Prop := j.left = .number ∧ j.right = .number

/-- What an operator reports that is not sound. -/
inductive Reports : Joint → Fault → Prop where
  | edge {left right : Side} (op : Binary) : left = .edge ∨ right = .edge →
      Reports ⟨left, op, right⟩ (.noOperand op)
  | operands (op : Binary) (a b : Atom) :
      Reports ⟨.of (some a), op, .of (some b)⟩ (.badOperands op a b)

/-- The leftmost of the operators that are not sound in the lowest tier that has one. -/
def FirstBad (js : List Joint) (j : Joint) : Prop :=
  ∃ before after, js = before ++ j :: after ∧ ¬ j.Sound ∧
    (∀ i ∈ before, ¬ i.Sound → j.op.tier < i.op.tier) ∧
    ∀ i ∈ after, ¬ i.Sound → j.op.tier ≤ i.op.tier

end Joint

/-! Values. -/

inductive Atom.IsValue : Atom → Prop where
  | number (x : Float) : IsValue (.number x)
  | unknown (name : String) : IsValue (.unknown name)

def Apart (as : List Atom) : Prop := as.IsChain fun a b => ¬ (a.IsValue ∧ b.IsValue)

/-! The pass for functions. -/

theorem served_nil : Served [] := by
  intro us f vs h
  simp at h

theorem served_cons {a : Atom} {as : List Atom} (ha : ∀ f, a ≠ .function f) (h : Served as) :
    Served (a :: as) := by
  intro us f vs heq
  cases us with
  | nil =>
    obtain ⟨rfl, -⟩ := List.cons_eq_cons.1 heq
    exact absurd rfl (ha f)
  | cons u us => exact h us f vs (List.cons_eq_cons.1 heq).2

theorem served_applied (f : Elementary) (x : Float) {as : List Atom} (h : Served as) :
    Served (.function f :: .number x :: as) := by
  intro us g vs heq
  cases us with
  | nil =>
    obtain ⟨-, rfl⟩ := List.cons_eq_cons.1 heq
    exact ⟨x, as, rfl⟩
  | cons u us => exact served_cons (by simp) h us g vs (List.cons_eq_cons.1 heq).2

theorem FirstIdle.cons {a : Atom} {as vs : List Atom} {f : Elementary} (h : FirstIdle as f vs)
    (ha : ∀ f, a ≠ .function f) : FirstIdle (a :: as) f vs := by
  obtain ⟨⟨us, rfl, hus⟩, hidle⟩ := h
  exact ⟨⟨a :: us, rfl, served_cons ha hus⟩, hidle⟩

theorem FirstIdle.applied {as vs : List Atom} {f : Elementary} (h : FirstIdle as f vs)
    (g : Elementary) (x : Float) : FirstIdle (.function g :: .number x :: as) f vs := by
  obtain ⟨⟨us, rfl, hus⟩, hidle⟩ := h
  exact ⟨⟨.function g :: .number x :: us, rfl, served_applied g x hus⟩, hidle⟩

theorem FirstIdle.not_served {as vs : List Atom} {f : Elementary} (h : FirstIdle as f vs) :
    ¬ Served as := by
  intro hserved
  obtain ⟨⟨us, rfl, -⟩, hidle⟩ := h
  obtain ⟨x, ws, hvs⟩ := hserved us f vs rfl
  exact hidle x ws hvs

theorem applyFunctions_by_shape (as : List Atom) :
    (Served as ∧ applyFunctions as = .ok (collapse as)) ∨
      ∃ f vs, FirstIdle as f vs ∧ applyFunctions as = .error (argumentFault f vs) := by
  fun_induction applyFunctions as with
  | case1 => exact .inl ⟨served_nil, rfl⟩
  | case2 f => exact .inr ⟨f, [], ⟨⟨[], rfl, served_nil⟩, by simp⟩, rfl⟩
  | case3 f x rest ih =>
    obtain ⟨hserved, hrest⟩ | ⟨g, vs, hidle, hrest⟩ := ih
    · exact .inl ⟨served_applied f x hserved, by rw [hrest, collapse, map_ok]⟩
    · exact .inr ⟨g, vs, hidle.applied f x, by rw [hrest, map_error]⟩
  | case4 f name rest =>
    exact .inr ⟨f, .unknown name :: rest, ⟨⟨[], rfl, served_nil⟩, by simp⟩, rfl⟩
  | case5 f a rest hnumber hunknown =>
    refine .inr ⟨f, a :: rest, ⟨⟨[], rfl, served_nil⟩, ?_⟩, ?_⟩
    · intro x ws heq
      exact hnumber x (List.cons_eq_cons.1 heq).1
    · cases a with
      | number x => exact absurd rfl (hnumber x)
      | unknown name => exact absurd rfl (hunknown name)
      | binary op => rfl
      | function g => rfl
  | case6 a rest hfunction ih =>
    obtain ⟨hserved, hrest⟩ | ⟨g, vs, hidle, hrest⟩ := ih
    · refine .inl ⟨served_cons hfunction hserved, ?_⟩
      rw [hrest, map_ok]
      cases a with
      | function f => exact absurd rfl (hfunction f)
      | number x => rfl
      | unknown name => rfl
      | binary op => rfl
    · exact .inr ⟨g, vs, hidle.cons hfunction, by rw [hrest, map_error]⟩

/-! The passes for operators. -/

theorem joints_operand {a : Atom} (h : ∀ op, a ≠ .binary op) (left : Side) (rest : List Atom) :
    joints left (a :: rest) = joints (.of (some a)) rest := by
  cases a with
  | binary op => exact absurd rfl (h op)
  | number x => rfl
  | unknown name => rfl
  | function f => rfl

theorem Side.of_eq_number {a? : Option Atom} :
    Side.of a? = .number ↔ ∃ x, a? = some (.number x) := by
  cases a? with
  | none => simp [Side.of]
  | some a => cases a <;> simp [Side.of]

variable {tier : Nat} {left : Option Atom} {as bs : List Atom} {js : List Joint} {fault : Fault}

def StopsAt (tier : Nat) (js : List Joint) (fault : Fault) : Prop :=
  ∃ before j after, js = before ++ j :: after ∧ j.op.tier = tier ∧ ¬ j.Sound ∧
    (∀ i ∈ before, i.op.tier = tier → i.Sound) ∧ j.Reports fault

theorem StopsAt.cons {j : Joint} (h : StopsAt tier js fault) (hj : j.op.tier = tier → j.Sound) :
    StopsAt tier (j :: js) fault := by
  obtain ⟨before, i, after, rfl, htier, hbad, hbefore, hreports⟩ := h
  exact ⟨j :: before, i, after, rfl, htier, hbad, List.forall_mem_cons.2 ⟨hj, hbefore⟩, hreports⟩

theorem applyTier_by_shape (tier : Nat) (left : Option Atom) (as : List Atom) :
    ((∀ j ∈ joints (.of left) as, j.op.tier = tier → j.Sound) ∧
      ∃ bs, applyTier tier left as = .ok bs) ∨
    ∃ fault, StopsAt tier (joints (.of left) as) fault ∧ applyTier tier left as = .error fault := by
  fun_induction applyTier tier left as with
  | case1 left => exact .inl ⟨by simp [joints], _, rfl⟩
  | case2 op ht x y rest ih =>
    have hjoints : joints (.of (some (.number x))) (.binary op :: .number y :: rest) =
        ⟨.number, op, .number⟩ :: joints .number rest := rfl
    have hsound : Joint.Sound ⟨.number, op, .number⟩ := ⟨rfl, rfl⟩
    rw [hjoints]
    obtain ⟨hall, hok⟩ | ⟨fault, hstops, hfault⟩ := ih
    · exact .inl ⟨List.forall_mem_cons.2 ⟨fun _ => hsound, hall⟩, hok⟩
    · exact .inr ⟨fault, hstops.cons fun _ => hsound, hfault⟩
  | case3 op ht a b rest hn =>
    refine .inr ⟨_, ⟨[], _, _, rfl, ht, ?_, by simp, .operands op a b⟩, rfl⟩
    intro hsound
    obtain ⟨x, hx⟩ := Side.of_eq_number.1 hsound.1
    obtain ⟨y, hy⟩ := Side.of_eq_number.1 hsound.2
    cases hx
    cases hy
    exact hn x y rfl rfl
  | case4 left op rest ht hn hs =>
    have hedge : Side.of left = .edge ∨ Side.of rest.head? = .edge := by
      cases left with
      | none => exact .inl rfl
      | some a =>
        cases rest with
        | nil => exact .inr rfl
        | cons b rest => exact absurd rfl fun heq => hs a b rest rfl heq
    refine .inr ⟨_, ⟨[], _, _, rfl, ht, ?_, by simp, .edge op hedge⟩, rfl⟩
    intro hsound
    obtain hleft | hright := hedge
    · exact absurd (hsound.1.symm.trans hleft) (by simp)
    · exact absurd (hsound.2.symm.trans hright) (by simp)
  | case5 left op rest ht ih =>
    obtain ⟨hall, bs, hbs⟩ | ⟨fault, hstops, hfault⟩ := ih
    · exact .inl ⟨List.forall_mem_cons.2 ⟨fun h => absurd h ht, hall⟩, _, by rw [hbs, map_ok]⟩
    · exact .inr ⟨fault, hstops.cons fun h => absurd h ht, by rw [hfault, map_error]⟩
  | case6 left a rest hop ih =>
    rw [joints_operand hop]
    obtain ⟨hall, bs, hbs⟩ | ⟨fault, hstops, hfault⟩ := ih
    · exact .inl ⟨hall, _, by rw [hbs, map_ok]⟩
    · exact .inr ⟨fault, hstops, by rw [hfault, map_error]⟩

/-- One row starts like the other, and has its operators but for those of the tier, each between the
same sides. -/
def KeepsOthers (tier : Nat) (bs as : List Atom) : Prop :=
  Side.of bs.head? = .of as.head? ∧
    ∀ s, joints s bs = (joints s as).filter (·.op.tier ≠ tier)

theorem KeepsOthers.nil : KeepsOthers tier [] [] := ⟨rfl, fun _ => rfl⟩

theorem KeepsOthers.cons (h : KeepsOthers tier bs as) {a : Atom}
    (ha : ∀ op, a = .binary op → op.tier ≠ tier) : KeepsOthers tier (a :: bs) (a :: as) := by
  obtain ⟨hhead, hjoints⟩ := h
  refine ⟨rfl, fun s => ?_⟩
  cases a with
  | binary op => simp [joints, hhead, hjoints, ha op rfl]
  | number x => exact hjoints _
  | unknown name => exact hjoints _
  | function f => exact hjoints _

theorem KeepsOthers.toList_append (h : KeepsOthers tier bs as)
    (hleft : ∀ op, left = some (.binary op) → op.tier ≠ tier) :
    KeepsOthers tier (left.toList ++ bs) (left.toList ++ as) := by
  cases left with
  | none => exact h
  | some a => exact h.cons fun op hop => hleft op (congrArg some hop)

theorem KeepsOthers.carriedOut {op : Binary} {x y z : Float}
    (h : KeepsOthers tier bs (.number z :: as)) (hop : op.tier = tier) :
    KeepsOthers tier bs (.number x :: .binary op :: .number y :: as) := by
  obtain ⟨hhead, hjoints⟩ := h
  refine ⟨hhead, fun s => ?_⟩
  have hrow : joints s (.number x :: .binary op :: .number y :: as) =
      ⟨.number, op, .number⟩ :: joints s (.number z :: as) := rfl
  rw [hrow, hjoints, List.filter_cons_of_neg (by simpa using hop)]

theorem keepsOthers_applyTier (h : applyTier tier left as = .ok bs)
    (hleft : ∀ op, left = some (.binary op) → op.tier ≠ tier) :
    KeepsOthers tier bs (left.toList ++ as) := by
  fun_induction applyTier tier left as generalizing bs with
  | case1 left =>
    cases h
    simpa using KeepsOthers.nil.toList_append hleft
  | case2 op ht x y rest ih => exact (ih h (by simp)).carriedOut ht
  | case3 op ht a b rest hn => cases h
  | case4 left op rest ht hn hs => cases h
  | case5 left op rest ht ih =>
    obtain ⟨cs, hcs, rfl⟩ := map_eq_ok.1 h
    exact (ih hcs (by simpa using ht)).toList_append hleft
  | case6 left a rest hop ih =>
    obtain ⟨cs, hcs, rfl⟩ := map_eq_ok.1 h
    exact (ih hcs fun op ha => absurd (Option.some.inj ha) (hop op)).toList_append hleft

theorem joints_of_applyTier (h : applyTier tier none as = .ok bs) :
    joints .edge bs = (joints .edge as).filter (·.op.tier ≠ tier) :=
  (keepsOthers_applyTier h (by simp)).2 .edge

/-! From tier to tier. -/

theorem Joint.FirstBad.of_stopsAt (h : StopsAt tier js fault)
    (htier : ∀ i ∈ js, ¬ i.Sound → tier ≤ i.op.tier) :
    ∃ j, FirstBad js j ∧ j.Reports fault := by
  obtain ⟨before, j, after, rfl, rfl, hbad, hbefore, hreports⟩ := h
  refine ⟨j, ⟨before, after, rfl, hbad, ?_, ?_⟩, hreports⟩
  · intro i hi hunsound
    have hle := htier i (List.mem_append_left _ hi) hunsound
    have hne : i.op.tier ≠ j.op.tier := fun heq => hunsound (hbefore i hi heq)
    omega
  · intro i hi hunsound
    exact htier i (List.mem_append_right _ (List.mem_cons_of_mem _ hi)) hunsound

theorem Joint.FirstBad.of_filter {p : Joint → Bool} {j : Joint} (h : FirstBad (js.filter p) j)
    (hsound : ∀ i ∈ js, p i = false → i.Sound) : FirstBad js j := by
  obtain ⟨before, after, heq, hbad, hbefore, hafter⟩ := h
  obtain ⟨us, rest, rfl, rfl, hrest⟩ := List.filter_eq_append_iff.1 heq
  obtain ⟨vs, ws, rfl, hvs, -, rfl⟩ := List.filter_eq_cons_iff.1 hrest
  have hkept : ∀ i ∈ us ++ (vs ++ j :: ws), ¬ i.Sound → p i = true := by
    intro i hi hunsound
    by_contra hp
    exact hunsound (hsound i hi (by simpa using hp))
  refine ⟨us ++ vs, ws, by simp, hbad, ?_, ?_⟩
  · intro i hi hunsound
    obtain hu | hv := List.mem_append.1 hi
    · have hp := hkept i (List.mem_append_left _ hu) hunsound
      exact hbefore i (List.mem_filter.2 ⟨hu, hp⟩) hunsound
    · have hp := hkept i (by simp [hv]) hunsound
      exact absurd hp (hvs i hv)
  · intro i hi hunsound
    have hp := hkept i (by simp [hi]) hunsound
    exact hafter i (List.mem_filter.2 ⟨hi, hp⟩) hunsound

/-- What the passes of the tiers below `k` have made of a row: their operators were all sound and
are gone, and the others stand as before. -/
def Passed (k : Nat) (as row : List Atom) : Prop :=
  joints .edge row = (joints .edge as).filter (k ≤ ·.op.tier) ∧
    ∀ i ∈ joints .edge as, i.op.tier < k → i.Sound

theorem passed_zero (as : List Atom) : Passed 0 as as := by
  refine ⟨by simp, fun i _ hi => ?_⟩
  omega

theorem Passed.applyTier {k : Nat} {row : List Atom} (h : Passed k as row) :
    (∃ bs, Reckon.applyTier k none row = .ok bs ∧ Passed (k + 1) as bs) ∨
    ∃ j fault, Joint.FirstBad (joints .edge as) j ∧ j.Reports fault ∧
      Reckon.applyTier k none row = .error fault := by
  obtain ⟨hjoints, hsound⟩ := h
  obtain ⟨hall, bs, hbs⟩ | ⟨fault, hstops, hfault⟩ := applyTier_by_shape k none row
  · refine .inl ⟨bs, hbs, ?_, ?_⟩
    · rw [joints_of_applyTier hbs, hjoints, List.filter_filter]
      refine List.filter_congr fun i _ => ?_
      simp only [ne_eq, decide_eq_decide, ← Bool.decide_and]
      omega
    · intro i hi hlt
      by_cases hk : i.op.tier = k
      · refine hall i ?_ hk
        rw [Side.of, hjoints, List.mem_filter]
        exact ⟨hi, by simpa using Nat.le_of_eq hk.symm⟩
      · exact hsound i hi (by omega)
  · rw [Side.of, hjoints] at hstops
    obtain ⟨j, hj, hreports⟩ := Joint.FirstBad.of_stopsAt hstops fun i hi _ => by
      simpa using (List.mem_filter.1 hi).2
    refine .inr ⟨j, fault, hj.of_filter fun i hi hp => hsound i hi ?_, hreports, hfault⟩
    simpa using hp

/-- The passes get through where every operator is sound, and else they stop at the leftmost that is
not in the lowest tier that has one. -/
theorem applyTiers_by_shape (as : List Atom) :
    ((∀ j ∈ joints .edge as, j.Sound) ∧ ∃ bs cs ds, applyTier 0 none as = .ok bs ∧
      applyTier 1 none bs = .ok cs ∧ applyTier 2 none cs = .ok ds) ∨
    ∃ j fault, Joint.FirstBad (joints .edge as) j ∧ j.Reports fault ∧
      (applyTier 0 none as >>= fun bs => applyTier 1 none bs >>= fun cs => applyTier 2 none cs) =
        .error fault := by
  obtain ⟨bs, hbs, hpassed⟩ | ⟨j, fault, hj, hreports, hfault⟩ := (passed_zero as).applyTier
  · obtain ⟨cs, hcs, hpassed⟩ | ⟨j, fault, hj, hreports, hfault⟩ := hpassed.applyTier
    · obtain ⟨ds, hds, -, hsound⟩ | ⟨j, fault, hj, hreports, hfault⟩ := hpassed.applyTier
      · exact .inl ⟨fun j hj => hsound j hj j.op.tier_lt, bs, cs, ds, hbs, hcs, hds⟩
      · exact .inr ⟨j, fault, hj, hreports, by rw [hbs, ok_bind, hcs, ok_bind, hfault]⟩
    · exact .inr ⟨j, fault, hj, hreports, by rw [hbs, ok_bind, hfault, error_bind]⟩
  · exact .inr ⟨j, fault, hj, hreports, by rw [hfault, error_bind]⟩

/-! Rows in which nothing is wrong but what is left over. -/

theorem apart_cons {a : Atom} (ha : ¬ a.IsValue) (h : Apart as) : Apart (a :: as) := by
  cases as with
  | nil => exact .singleton a
  | cons b as => exact List.isChain_cons_cons.2 ⟨fun hvalues => ha hvalues.1, h⟩

theorem Operand.apart_append {x : Float} (h : Operand as x) {a : Atom} (ha : ¬ a.IsValue)
    (hbs : Apart (a :: bs)) : Apart (as ++ a :: bs) := by
  have hnumber : ∀ y, Apart (.number y :: a :: bs) := fun y =>
    List.isChain_cons_cons.2 ⟨fun hvalues => ha hvalues.2, hbs⟩
  cases h with
  | plain x => exact hnumber x
  | applied f x => exact apart_cons nofun (hnumber x)

theorem Operands.apart {c : Chain Float} (h : Operands as c) : Apart as := by
  induction h with
  | lone h =>
    cases h with
    | plain x => exact .singleton _
    | applied f x => exact apart_cons nofun (.singleton _)
  | joined op h _ ih => exact h.apart_append nofun (apart_cons nofun ih)

theorem exists_operands_of_sound : ∀ (x : Float) (as : List Atom),
    (∀ j ∈ joints .number as, j.Sound) → (∀ f, .function f ∉ as) → Apart (.number x :: as) →
      ∃ c, Operands (.number x :: as) c
  | x, [], _, _, _ => ⟨_, .lone (.plain x)⟩
  | x, .binary op :: [], hsound, _, _ => by
    obtain ⟨hop, -⟩ := List.forall_mem_cons.1 hsound
    exact absurd hop.2 (by simp [Side.of])
  | x, .binary op :: a :: as, hsound, hfunction, hapart => by
    obtain ⟨hop, hrest⟩ := List.forall_mem_cons.1 hsound
    obtain ⟨y, hy⟩ := Side.of_eq_number.1 hop.2
    cases hy
    have hfree : ∀ f, .function f ∉ as := fun f hf =>
      hfunction f (List.mem_cons_of_mem _ (List.mem_cons_of_mem _ hf))
    have hnext : Apart (.number y :: as) := hapart.tail.tail
    obtain ⟨⟨z, more⟩, hc⟩ := exists_operands_of_sound y as hrest hfree hnext
    exact ⟨_, .joined op (.plain x) hc⟩
  | x, .number y :: as, _, _, hapart => by
    exact absurd ⟨.number x, .number y⟩ (List.isChain_cons_cons.1 hapart).1
  | x, .unknown name :: as, _, _, hapart => by
    exact absurd ⟨.number x, .unknown name⟩ (List.isChain_cons_cons.1 hapart).1
  | x, .function f :: as, _, hfunction, _ => absurd List.mem_cons_self (hfunction f)

theorem exists_reduce_iff_operands : (∃ x, reduce as = .ok x) ↔ ∃ c, Operands as c := by
  constructor
  · intro h
    obtain ⟨x, hx⟩ := h
    obtain ⟨c, hc, -⟩ := reduce_eq_ok_iff_operands.1 hx
    exact ⟨c, hc⟩
  · intro h
    obtain ⟨c, hc⟩ := h
    exact ⟨_, hc.reduce⟩

theorem exists_operands_iff_apart (hnil : as ≠ []) (hsound : ∀ j ∈ joints .edge as, j.Sound)
    (hfunction : ∀ f, .function f ∉ as) :
    (∃ c, Operands as c) ↔ Apart as ∧ ∀ name, as ≠ [.unknown name] := by
  constructor
  · intro h
    obtain ⟨c, hc⟩ := h
    refine ⟨hc.apart, fun name hname => ?_⟩
    exact unknown_not_mem_of_reduce hc.reduce name (hname ▸ List.mem_cons_self)
  · intro h
    obtain ⟨hapart, hlone⟩ := h
    cases as with
    | nil => exact absurd rfl hnil
    | cons a as =>
      cases a with
      | number x =>
        have hfree : ∀ f, .function f ∉ as := fun f hf => hfunction f (List.mem_cons_of_mem _ hf)
        exact exists_operands_of_sound x as hsound hfree hapart
      | binary op => exact absurd (hsound _ List.mem_cons_self).1 (by simp)
      | function f => exact absurd List.mem_cons_self (hfunction f)
      | unknown name =>
        -- An operator behind an unknown is not sound, and a value behind it stands too near.
        cases as with
        | nil => exact absurd rfl (hlone name)
        | cons b as =>
          have hnear := (List.isChain_cons_cons.1 hapart).1
          cases b with
          | number x => exact absurd ⟨.unknown name, .number x⟩ hnear
          | unknown other => exact absurd ⟨.unknown name, .unknown other⟩ hnear
          | binary op => exact absurd (hsound _ List.mem_cons_self).1 (by simp [Side.of])
          | function f => exact absurd (by simp) (hfunction f)

theorem Served.tail {a : Atom} (h : Served (a :: as)) : Served as := by
  intro us f vs heq
  exact h (a :: us) f vs (congrArg _ heq)

theorem function_not_mem_collapse (h : Served as) (f : Elementary) : .function f ∉ collapse as := by
  fun_induction collapse as with
  | case1 g x rest ih => simpa using ih h.tail.tail
  | case2 a rest hn ih =>
    intro hmem
    obtain rfl | hrest := List.mem_cons.1 hmem
    · obtain ⟨x, ws, hws⟩ := h [] f rest rfl
      exact hn f x ws rfl hws
    · exact ih h.tail hrest
  | case3 => simp

theorem applyFunctions_of_functionFree (h : ∀ f, .function f ∉ as) :
    applyFunctions as = .ok as := by
  fun_induction applyFunctions as with
  | case1 => rfl
  | case2 f => exact absurd List.mem_cons_self (h f)
  | case3 f x rest ih => exact absurd List.mem_cons_self (h f)
  | case4 f name rest => exact absurd List.mem_cons_self (h f)
  | case5 f a rest => exact absurd List.mem_cons_self (h f)
  | case6 a rest hf ih => rw [ih fun f hf => h f (List.mem_cons_of_mem _ hf), map_ok]

theorem collapse_ne_nil (h : as ≠ []) : collapse as ≠ [] := by
  fun_cases collapse as with
  | case1 => simp
  | case2 => simp
  | case3 => exact absurd rfl h

theorem reduce_eq_of_applyFunctions (h : as ≠ []) (hbs : applyFunctions as = .ok bs) :
    reduce as = (applyTier 0 none bs >>= fun cs => applyTier 1 none cs >>= fun ds =>
      applyTier 2 none ds) >>= single := by
  cases as with
  | nil => exact absurd rfl h
  | cons a as =>
    simp only [reduce, List.isEmpty_cons, Bool.false_eq_true, if_false, hbs, ok_bind]
    cases applyTier 0 none bs with
    | error fault => rfl
    | ok cs =>
      simp only [ok_bind]
      cases applyTier 1 none cs with
      | error fault => rfl
      | ok ds => rfl

theorem reduce_error_of_applyFunctions (h : as ≠ []) (hfault : applyFunctions as = .error fault) :
    reduce as = .error fault := by
  cases as with
  | nil => exact absurd rfl h
  | cons a as => simp [reduce, hfault]

theorem reduce_collapse (h : as ≠ []) (hserved : Served as) : reduce (collapse as) = reduce as := by
  obtain ⟨-, hok⟩ | ⟨f, vs, hidle, -⟩ := applyFunctions_by_shape as
  · have hsame := applyFunctions_of_functionFree (function_not_mem_collapse hserved)
    rw [reduce_eq_of_applyFunctions h hok, reduce_eq_of_applyFunctions (collapse_ne_nil h) hsame]
  · exact absurd hserved hidle.not_served

theorem single_value_or_leftOver (as : List Atom) :
    (∃ x, single as = .ok x) ∨ single as = .error (.leftOver as) := by
  by_cases hone : ∃ x, as = [.number x]
  · obtain ⟨x, rfl⟩ := hone
    exact .inl ⟨x, rfl⟩
  · exact .inr (single_stuck fun x hx => hone ⟨x, hx⟩)

/-- What a row without groups comes to goes by its shape. The first function without a number behind
it is reported before all else; then the first operator without numbers beside it, of those in the
lowest tier that has one; and if there are none of either, the row has a value unless two values
stand next to each other in it or it is a lone unknown, and then the rest is reported. -/
theorem reduce_by_shape (h : as ≠ []) :
    (¬ Served as → ∃ f vs, FirstIdle as f vs ∧ reduce as = .error (argumentFault f vs)) ∧
    (Served as →
      ((∃ j ∈ joints .edge (collapse as), ¬ j.Sound) →
        ∃ j fault, Joint.FirstBad (joints .edge (collapse as)) j ∧ j.Reports fault ∧
          reduce as = .error fault) ∧
      ((∀ j ∈ joints .edge (collapse as), j.Sound) →
        ((∃ x, reduce as = .ok x) ↔
          Apart (collapse as) ∧ ∀ name, collapse as ≠ [.unknown name]) ∧
        ((¬ ∃ x, reduce as = .ok x) → ∃ rest, reduce as = .error (.leftOver rest)))) := by
  obtain ⟨hserved, hok⟩ | ⟨f, vs, hidle, hfault⟩ := applyFunctions_by_shape as
  · have hreduce := reduce_eq_of_applyFunctions h hok
    refine ⟨fun hnot => absurd hserved hnot, fun _ => ?_⟩
    obtain ⟨hsound, bs, cs, ds, hbs, hcs, hds⟩ | ⟨j, fault, hj, hreports, hfault⟩ :=
      applyTiers_by_shape (collapse as)
    · refine ⟨fun hbad => ?_, fun _ => ⟨?_, fun hnone => ?_⟩⟩
      · obtain ⟨j, hj, hunsound⟩ := hbad
        exact absurd (hsound j hj) hunsound
      · rw [← exists_operands_iff_apart (collapse_ne_nil h) hsound
          (function_not_mem_collapse hserved), ← reduce_collapse h hserved]
        exact exists_reduce_iff_operands
      · rw [hbs, ok_bind, hcs, ok_bind, hds, ok_bind] at hreduce
        obtain ⟨x, hx⟩ | hleft := single_value_or_leftOver ds
        · exact absurd ⟨x, hreduce.trans hx⟩ hnone
        · exact ⟨ds, hreduce.trans hleft⟩
    · refine ⟨fun _ => ⟨j, fault, hj, hreports, ?_⟩, fun hsound => ?_⟩
      · rw [hreduce, hfault, error_bind]
      · obtain ⟨before, after, heq, hunsound, -⟩ := hj
        exact absurd (hsound j (by simp [heq])) hunsound
  · refine ⟨fun _ => ⟨f, vs, hidle, reduce_error_of_applyFunctions h hfault⟩, fun hserved => ?_⟩
    exact absurd hserved hidle.not_served

/-- `sin 0 + x * 2 - / 3`: all four operators miss a number, and the product is reported. -/
theorem reduce_unknown_factor :
    let as : List Atom := [.function .sin, .number 0, .binary .add, .unknown "x",
      .binary .multiply, .number 2, .binary .subtract, .binary .divide, .number 3]
    as ≠ [] ∧ Served as ∧ (∃ j ∈ joints .edge (collapse as), ¬ j.Sound) ∧
      ∃ j fault, Joint.FirstBad (joints .edge (collapse as)) j ∧ j.Reports fault ∧
        reduce as = .error fault ∧ j.op = .multiply := by
  intro as
  have hnil : as ≠ [] := by simp [as]
  have hserved : Served as := served_applied .sin 0 (by
    repeat refine served_cons nofun ?_
    exact served_nil)
  have hbad : ∃ j ∈ joints .edge (collapse as), ¬ j.Sound :=
    ⟨_, List.mem_cons_self, fun hsound => by cases hsound.2⟩
  obtain ⟨j, fault, hj, hreports, hfault⟩ := ((reduce_by_shape hnil).2 hserved).1 hbad
  have hvalue : reduce as = .error (.badOperands .multiply (.unknown "x") (.number 2)) := rfl
  obtain rfl := Except.error.inj (hvalue.symm.trans hfault)
  refine ⟨hnil, hserved, hbad, j, _, hj, hreports, hfault, ?_⟩
  cases hreports
  rfl

end Reckon
