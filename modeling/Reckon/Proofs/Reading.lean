import Reckon.Formula.Reading
import Reckon.Proofs.Nesting

/-! Reading undoes writing. What has been read at any time is the row that is open and the rows
around it, each up to its opening bracket; nothing of it is lost, and nothing is added. -/
namespace Reckon
open Outcome

namespace Formula
variable {limit : Int} {depth : Nat}

/-- The tokens that write a formula: each group stands between brackets of one family. -/
inductive Written : Formula → List Token → Prop where
  | nil : Written nil []
  | atom {a : Atom} {rest : Formula} {ts : List Token} :
      Written rest ts → Written (atom a rest) (.atom a :: ts)
  | group {inner rest : Formula} {us ts : List Token} (b : Bracket) :
      Written inner us → Written rest ts →
        Written (group inner rest) (.opening b :: (us ++ .closing b :: ts))

theorem Written.append {f g : Formula} {us vs : List Token} (hf : f.Written us)
    (hg : g.Written vs) : (f ++ g).Written (us ++ vs) := by
  induction hf with
  | nil => exact hg
  | atom _ ih => exact .atom ih
  | group b hinner _ _ ih =>
    have h := Written.group b hinner ih
    simpa using h

theorem within_append {f g : Formula} :
    Within limit depth (f ++ g) ↔ Within limit depth f ∧ Within limit depth g := by
  unfold Within
  rw [depth_append]
  omega

theorem reverse_reverseOnto (f g : Formula) : (f.reverseOnto g).reverse = g.reverse ++ f := by
  induction f generalizing g with
  | nil => exact (append_nil _).symm
  | atom a rest ih =>
    have hlast : (atom a g).reverse = g.reverse ++ atom a nil := reverseOnto_eq g (atom a nil)
    rw [reverseOnto, ih, hlast, append_assoc]
    rfl
  | group inner rest _ ih =>
    have hlast : (group inner g).reverse = g.reverse ++ group inner nil :=
      reverseOnto_eq g (group inner nil)
    rw [reverseOnto, ih, hlast, append_assoc]
    rfl

theorem reverse_reverse (f : Formula) : f.reverse.reverse = f := reverse_reverseOnto f nil

end Formula

namespace Frames
open Formula
variable {limit : Int}

theorem push_atom {l : Lexeme} {a : Atom} (hl : l.token = .atom a) (s : Frames) :
    push limit s l = .ok ⟨.atom a s.row, s.outer⟩ := by
  simp only [push, hl]

theorem push_opening {l : Lexeme} {b : Bracket} (hl : l.token = .opening b) (s : Frames) :
    push limit s l =
      if limit ≤ s.outer.length then .error (.tooDeep limit)
      else .ok ⟨.nil, (b, s.row) :: s.outer⟩ := by
  simp only [push, hl]

theorem push_closing {l : Lexeme} {b : Bracket} (hl : l.token = .closing b) (row r : Formula)
    (opened : Bracket) (outer : List (Bracket × Formula)) :
    push limit ⟨row, (opened, r) :: outer⟩ l =
      if opened = b then .ok ⟨.group row.reverse r, outer⟩
      else .error (.strayClosing b l.position) := by
  simp only [push, hl]

/-- Written out anywhere, a formula is read as itself. -/
theorem foldlM_push_of_written {f : Formula} {ts : List Token} (h : f.Written ts)
    {ls : List Lexeme} (hls : ls.map (·.token) = ts) (s : Frames)
    (hw : Within limit s.outer.length f) :
    ls.foldlM (push limit) s = .ok ⟨f.reverseOnto s.row, s.outer⟩ := by
  induction h generalizing ls s with
  | nil =>
    obtain rfl := List.map_eq_nil_iff.1 hls
    rfl
  | atom _ ih =>
    obtain ⟨l, ls, rfl, hl, hls⟩ := List.map_eq_cons_iff.1 hls
    rw [List.foldlM_cons, push_atom hl, ok_bind, ih hls ⟨.atom _ s.row, s.outer⟩ hw]
    rfl
  | @group inner rest us ts b _ _ ih₁ ih₂ =>
    obtain ⟨l, ls, rfl, hl, hls⟩ := List.map_eq_cons_iff.1 hls
    obtain ⟨ks, ls, rfl, hks, hls⟩ := List.map_eq_append_iff.1 hls
    obtain ⟨k, ls, rfl, hk, hls⟩ := List.map_eq_cons_iff.1 hls
    obtain ⟨hd, hw₁, hw₂⟩ := within_group.1 hw
    have hopen := ih₁ hks ⟨.nil, (b, s.row) :: s.outer⟩ hw₁
    have hclose : push limit ⟨inner.reverse, (b, s.row) :: s.outer⟩ k =
        .ok ⟨.group inner s.row, s.outer⟩ := by
      rw [push_closing hk, if_pos rfl, reverse_reverse]
    have hrest := ih₂ hls ⟨.group inner s.row, s.outer⟩ hw₂
    rw [List.foldlM_cons, push_opening hl, if_neg (Int.not_le.2 hd), ok_bind, List.foldlM_append,
      hopen, ok_bind, List.foldlM_cons]
    change (push limit ⟨inner.reverse, (b, s.row) :: s.outer⟩ k >>= _) = _
    rw [hclose, ok_bind, hrest]
    rfl

/-- The tokens read so far: what is in each open row has been written, each row within its limit. -/
inductive Reached (limit : Int) : Frames → List Token → Prop where
  | bottom {row : Formula} {ts : List Token} :
      row.reverse.Written ts → Within limit 0 row.reverse → Reached limit ⟨row, []⟩ ts
  | inside {row r : Formula} {outer : List (Bracket × Formula)} {us vs : List Token} (b : Bracket) :
      Reached limit ⟨r, outer⟩ us → (outer.length : Int) < limit → row.reverse.Written vs →
        Within limit (outer.length + 1) row.reverse →
          Reached limit ⟨row, (b, r) :: outer⟩ (us ++ .opening b :: vs)

theorem Reached.extend {row f : Formula} {outer : List (Bracket × Formula)} {us vs : List Token}
    (h : Reached limit ⟨row, outer⟩ us) (hf : f.Written vs) (hw : Within limit outer.length f) :
    Reached limit ⟨f.reverseOnto row, outer⟩ (us ++ vs) := by
  cases h with
  | bottom hrow hdeep =>
    refine .bottom ?_ ?_
    · rw [reverse_reverseOnto]
      exact hrow.append hf
    · rw [reverse_reverseOnto]
      exact within_append.2 ⟨hdeep, hw⟩
  | inside b hr hroom hrow hdeep =>
    rw [List.append_assoc, List.cons_append]
    refine .inside b hr hroom ?_ ?_
    · rw [reverse_reverseOnto]
      exact hrow.append hf
    · rw [reverse_reverseOnto]
      exact within_append.2 ⟨hdeep, hw⟩

theorem Reached.push {s s' : Frames} {ts : List Token} {l : Lexeme} (h : Reached limit s ts)
    (hs : push limit s l = .ok s') : Reached limit s' (ts ++ [l.token]) := by
  cases hl : l.token with
  | atom a =>
    rw [push_atom hl] at hs
    cases hs
    exact h.extend (.atom .nil) within_nil
  | opening b =>
    rw [push_opening hl] at hs
    split at hs
    · cases hs
    · next hroom =>
      cases hs
      exact .inside b h (Int.not_le.1 hroom) .nil within_nil
  | closing b =>
    cases h with
    | bottom => simp [Frames.push, hl] at hs
    | inside opened hr hroom hrow hdeep =>
      rw [push_closing hl] at hs
      split at hs
      · next hb =>
        cases hs
        subst hb
        have hgroup := hr.extend (.group opened hrow .nil)
          (within_group.2 ⟨hroom, hdeep, within_nil⟩)
        simpa [reverseOnto] using hgroup
      · cases hs

theorem Reached.foldlM_push {ls : List Lexeme} {s s' : Frames} {ts : List Token}
    (h : Reached limit s ts) (hs : ls.foldlM (Frames.push limit) s = .ok s') :
    Reached limit s' (ts ++ ls.map (·.token)) := by
  induction ls generalizing s ts with
  | nil =>
    cases hs
    simpa using h
  | cons l ls ih =>
    rw [List.foldlM_cons, bind_eq_ok] at hs
    obtain ⟨next, hnext, hs⟩ := hs
    have hrest := ih (h.push hnext) hs
    simpa [List.append_assoc] using hrest

theorem foldlM_push_finish {ls : List Lexeme} {f : Formula} :
    (ls.foldlM (push limit) empty >>= finish) = .ok f ↔
      f.Written (ls.map (·.token)) ∧ f.depth ≤ limit.toNat := by
  rw [bind_eq_ok]
  constructor
  · intro h
    obtain ⟨s, hs, hf⟩ := h
    have hempty : Reached limit empty [] := .bottom .nil within_nil
    have h := hempty.foldlM_push hs
    rw [List.nil_append] at h
    generalize ls.map (·.token) = ts at h ⊢
    cases h with
    | bottom hrow hdeep =>
      cases hf
      exact ⟨hrow, within_top.1 hdeep⟩
    | inside b hr hroom hrow hdeep => cases hf
  · intro h
    obtain ⟨hf, hdeep⟩ := h
    refine ⟨_, foldlM_push_of_written hf rfl empty (within_top.2 hdeep), ?_⟩
    exact congrArg Except.ok (reverse_reverse f)

end Frames

theorem Formula.read_eq_ok {limit : Int} {source : String} {f : Formula} :
    Formula.read limit source = .ok f ↔ ∃ ls, tokenize source = .ok ls ∧
      f.Written (ls.map (·.token)) ∧ f.depth ≤ limit.toNat := by
  unfold Formula.read tokenize
  obtain ⟨ls, _ | fault⟩ := (Cursor.start source).scan
  · simp only [Except.ok.injEq, exists_eq_left']
    exact Frames.foldlM_push_finish
  · simp [ofScan, bind_eq_ok]

end Reckon
