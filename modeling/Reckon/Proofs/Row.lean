import Reckon.Proofs.Shape

/-! A row comes to a single number only if it has the shape of one from the start: no function and
no operator can take in anything but numbers, so whatever is out of place stays out of place. -/
namespace Reckon
open Outcome Formula
variable {after p : Place} {limit : Int} {depth : Nat}

def Formula.ofAtoms : List Atom → Formula
  | [] => nil
  | a :: atoms => atom a (ofAtoms atoms)

theorem Formula.Fits.change_rest {a : Atom} {f g : Formula} (h : (atom a f).Fits after p)
    (hfg : ∀ q, f.Fits after q → g.Fits after q) : (atom a g).Fits after p := by
  cases a with
  | number x => exact ⟨h.1, hfg _ h.2⟩
  | unknown name => exact ⟨h.1, hfg _ h.2⟩
  | binary op => exact ⟨h.1, hfg _ h.2⟩
  | function g => exact ⟨h.1, hfg _ h.2⟩

/-- Every number that a function gives stands for the function and its argument. -/
theorem fits_of_applyFunctions {as bs : List Atom} (h : applyFunctions as = .ok bs)
    (hp : p ≠ .afterOperator) (hbs : (ofAtoms bs).Fits .start p) :
    (ofAtoms as).Fits .start p := by
  fun_induction applyFunctions as generalizing p bs with
  | case1 =>
    cases h
    exact hbs
  | case2 f => cases h
  | case3 f x rest ih =>
    obtain ⟨cs, hcs, rfl⟩ := map_eq_ok.1 h
    obtain ⟨hready, hrest⟩ := hbs
    have hstart : p = .start := by
      cases p with
      | start => rfl
      | afterOperator => exact absurd rfl hp
      | afterValue => exact absurd rfl hready
    have htail := ih hcs (by decide) hrest
    exact ⟨hstart, by decide, htail⟩
  | case4 f name rest => cases h
  | case5 f a rest => cases h
  | case6 a rest hf ih =>
    obtain ⟨cs, hcs, rfl⟩ := map_eq_ok.1 h
    cases a with
    | number x => exact ⟨hbs.1, ih hcs (by decide) hbs.2⟩
    | unknown name => exact ⟨hbs.1, ih hcs (by decide) hbs.2⟩
    | binary op => exact ⟨hbs.1, ih hcs (by decide) hbs.2⟩
    | function f => exact absurd rfl (hf f)

theorem fits_of_applyTier {tier : Nat} {left : Option Atom} {as bs : List Atom}
    (h : applyTier tier left as = .ok bs) (hbs : (ofAtoms bs).Fits .start p) :
    (ofAtoms (left.toList ++ as)).Fits .start p := by
  fun_induction applyTier tier left as generalizing p bs with
  | case1 left =>
    cases h
    simpa using hbs
  | case2 op ht x y rest ih =>
    obtain ⟨hready, hrest⟩ := ih h hbs
    exact ⟨hready, rfl, by decide, hrest⟩
  | case3 op ht a b rest hn => cases h
  | case4 op ht left rest hn hs => cases h
  | case5 left op rest ht ih =>
    obtain ⟨cs, hcs, rfl⟩ := map_eq_ok.1 h
    cases left with
    | none => exact ih hcs hbs
    | some a => exact hbs.change_rest fun q hq => ih hcs hq
  | case6 left a rest hop ih =>
    obtain ⟨cs, hcs, rfl⟩ := map_eq_ok.1 h
    cases left with
    | none => exact ih hcs hbs
    | some b => exact hbs.change_rest fun q hq => ih hcs hq

theorem unknown_mem_of_applyFunctions {as bs : List Atom} (h : applyFunctions as = .ok bs)
    {name : String} (hn : .unknown name ∈ as) : .unknown name ∈ bs := by
  fun_induction applyFunctions as generalizing bs with
  | case1 => cases hn
  | case2 f => cases h
  | case3 f x rest ih =>
    obtain ⟨cs, hcs, rfl⟩ := map_eq_ok.1 h
    have hrest : .unknown name ∈ rest := by simpa using hn
    exact List.mem_cons_of_mem _ (ih hcs hrest)
  | case4 f name rest => cases h
  | case5 f a rest => cases h
  | case6 a rest hf ih =>
    obtain ⟨cs, hcs, rfl⟩ := map_eq_ok.1 h
    obtain rfl | hrest := List.mem_cons.1 hn
    · exact List.mem_cons_self
    · exact List.mem_cons_of_mem _ (ih hcs hrest)

theorem unknown_mem_of_applyTier {tier : Nat} {left : Option Atom} {as bs : List Atom}
    (h : applyTier tier left as = .ok bs) {name : String}
    (hn : .unknown name ∈ left.toList ++ as) : .unknown name ∈ bs := by
  fun_induction applyTier tier left as generalizing bs with
  | case1 left =>
    cases h
    simpa using hn
  | case2 op ht x y rest ih =>
    have hrest : .unknown name ∈ rest := by simpa using hn
    exact ih h (List.mem_append_right _ hrest)
  | case3 op ht a b rest hn => cases h
  | case4 op ht left rest hn hs => cases h
  | case5 left op rest ht ih =>
    obtain ⟨cs, hcs, rfl⟩ := map_eq_ok.1 h
    obtain hleft | hrest := List.mem_append.1 hn
    · exact List.mem_append_left _ hleft
    · exact List.mem_append_right _ (ih hcs (by simpa using hrest))
  | case6 left a rest hop ih =>
    obtain ⟨cs, hcs, rfl⟩ := map_eq_ok.1 h
    obtain hleft | hrest := List.mem_append.1 hn
    · exact List.mem_append_left _ hleft
    · exact List.mem_append_right _ (ih hcs (by simpa using hrest))

theorem single_eq_ok {as : List Atom} {x : Float} : single as = .ok x ↔ as = [.number x] := by
  constructor
  · intro h
    unfold single at h
    split at h <;> cases h
    rfl
  · intro h
    subst h
    rfl

theorem reduce_eq_ok {as : List Atom} {x : Float} :
    reduce as = .ok x ↔ as ≠ [] ∧ ∃ bs cs ds, applyFunctions as = .ok bs ∧
      applyTier 0 none bs = .ok cs ∧ applyTier 1 none cs = .ok ds ∧
      applyTier 2 none ds = .ok [.number x] := by
  cases as with
  | nil => simp [reduce]
  | cons a as =>
    simp only [reduce, List.isEmpty_cons, Bool.false_eq_true, if_false, bind_eq_ok, single_eq_ok]
    grind

theorem fits_of_reduce {as : List Atom} {x : Float} (h : reduce as = .ok x) :
    (ofAtoms as).Fits .start .start := by
  obtain ⟨-, bs, cs, ds, hbs, hcs, hds, hx⟩ := reduce_eq_ok.1 h
  have hone : (ofAtoms [.number x]).Fits .start .start := ⟨by decide, rfl⟩
  have htwo := fits_of_applyTier hx hone
  have hthree := fits_of_applyTier hds htwo
  exact fits_of_applyFunctions hbs (by decide) (fits_of_applyTier hcs hthree)

theorem unknown_not_mem_of_reduce {as : List Atom} {x : Float} (h : reduce as = .ok x)
    (name : String) : .unknown name ∉ as := by
  intro hn
  obtain ⟨-, bs, cs, ds, hbs, hcs, hds, hx⟩ := reduce_eq_ok.1 h
  have hone := unknown_mem_of_applyTier hcs (unknown_mem_of_applyFunctions hbs hn)
  have hthree := unknown_mem_of_applyTier hx (unknown_mem_of_applyTier hds hone)
  simp at hthree

/-! From the row that a formula settles to, back to the formula. -/

namespace Formula

theorem fits_of_settle {f : Formula} {as : List Atom} (h : settle limit depth f = .ok as)
    (has : (ofAtoms as).Fits .start p) : f.Fits .start p := by
  induction f generalizing depth p as with
  | nil =>
    cases h
    exact has
  | atom a rest ih =>
    rw [settle_atom, map_eq_ok] at h
    obtain ⟨vs, hvs, rfl⟩ := h
    exact has.change_rest fun q hq => ih hvs hq
  | group inner rest ih₁ ih₂ =>
    obtain ⟨-, us, x, vs, hus, hx, hvs, rfl⟩ := settle_group_eq_ok.1 h
    exact ⟨has.1, ih₁ hus (fits_of_reduce hx), ih₂ hvs has.2⟩

theorem unknown_mem_of_settle {f : Formula} {as : List Atom} (h : settle limit depth f = .ok as)
    {name : String} (hn : name ∈ f.unknowns) : .unknown name ∈ as := by
  induction f generalizing depth as with
  | nil => cases hn
  | atom a rest ih =>
    rw [settle_atom, map_eq_ok] at h
    obtain ⟨vs, hvs, rfl⟩ := h
    rw [unknowns_atom, List.mem_append] at hn
    obtain ha | hrest := hn
    · cases a <;> simp at ha
      simp [ha]
    · exact List.mem_cons_of_mem _ (ih hvs hrest)
  | group inner rest ih₁ ih₂ =>
    obtain ⟨-, us, x, vs, hus, hx, hvs, rfl⟩ := settle_group_eq_ok.1 h
    obtain hinner | hrest := List.mem_append.1 hn
    · exact absurd (ih₁ hus hinner) (unknown_not_mem_of_reduce hx name)
    · exact List.mem_cons_of_mem _ (ih₂ hvs hrest)

theorem fits_of_evaluate {f : Formula} {x : Float} (h : f.evaluate limit = .ok x) :
    f.Fits .start .start ∧ f.unknowns = [] := by
  obtain ⟨as, has, hx⟩ := evaluate_eq_ok.1 h
  refine ⟨fits_of_settle has (fits_of_reduce hx), ?_⟩
  refine List.eq_nil_iff_forall_not_mem.2 fun name hn => ?_
  exact unknown_not_mem_of_reduce hx name (unknown_mem_of_settle has hn)

end Formula
end Reckon
