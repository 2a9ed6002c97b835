import Reckon.Proofs.Meaning

/-! What is read is what is balanced. A row of tokens makes a formula exactly if its brackets pair
off, each with one of its own family, and do not nest too deep; the formula holds all of the tokens
in their order and at their depth, and of the families nothing. -/
namespace Reckon

namespace Token

/-- Every bracket that opens is closed by one of its family, and what is between is balanced. -/
inductive Balanced : List Token → Prop where
  | nil : Balanced []
  | atom (a : Atom) {ts : List Token} : Balanced ts → Balanced (.atom a :: ts)
  | group (b : Bracket) {us ts : List Token} :
      Balanced us → Balanced ts → Balanced (.opening b :: (us ++ .closing b :: ts))

/-- The largest number of brackets that are open at once, when `k` are open to begin with. -/
def mostOpen (k : Nat) : List Token → Nat
  | [] => k
  | .atom _ :: ts => mostOpen k ts
  | .opening _ :: ts => mostOpen (k + 1) ts
  | .closing _ :: ts => max k (mostOpen (k - 1) ts)

def rounded : Token → Token
  | .opening _ => .opening .round
  | .closing _ => .closing .round
  | t => t

theorem le_mostOpen (k : Nat) (ts : List Token) : k ≤ mostOpen k ts := by
  induction ts generalizing k with
  | nil => exact Nat.le_refl k
  | cons t ts ih =>
    cases t with
    | atom a => exact ih k
    | opening b => exact Nat.le_of_succ_le (ih (k + 1))
    | closing b => exact Nat.le_max_left k _

end Token

namespace Formula
open Token
variable {f g : Formula} {us ts : List Token}

theorem balanced_iff_written : Balanced ts ↔ ∃ f : Formula, f.Written ts := by
  constructor
  · intro h
    induction h with
    | nil => exact ⟨nil, .nil⟩
    | atom a _ ih =>
      obtain ⟨f, hf⟩ := ih
      exact ⟨atom a f, .atom hf⟩
    | group b _ _ ih₁ ih₂ =>
      obtain ⟨inner, hinner⟩ := ih₁
      obtain ⟨rest, hrest⟩ := ih₂
      exact ⟨group inner rest, .group b hinner hrest⟩
  · intro h
    obtain ⟨f, hf⟩ := h
    induction hf with
    | nil => exact .nil
    | atom _ ih => exact .atom _ ih
    | group b _ _ ih₁ ih₂ => exact .group b ih₁ ih₂

/-- Groups are as deep as brackets are open, and behind a formula as many are open as in front. -/
theorem Written.mostOpen_append (h : f.Written us) (k : Nat) (ts : List Token) :
    mostOpen k (us ++ ts) = max (k + f.depth) (mostOpen k ts) := by
  induction h generalizing k ts with
  | nil => exact (Nat.max_eq_right (le_mostOpen k ts)).symm
  | atom _ ih => exact ih k ts
  | @group inner rest us vs b _ _ ih₁ ih₂ =>
    have hopen : mostOpen k (.opening b :: (us ++ .closing b :: vs) ++ ts) =
        mostOpen (k + 1) (us ++ .closing b :: (vs ++ ts)) := by
      rw [List.cons_append, List.append_assoc, List.cons_append]
      rfl
    have hclose : mostOpen (k + 1) (.closing b :: (vs ++ ts)) =
        max (k + 1) (mostOpen k (vs ++ ts)) := rfl
    rw [hopen, ih₁, hclose, ih₂, Formula.depth]
    omega

theorem Written.mostOpen (h : f.Written ts) : mostOpen 0 ts = f.depth := by
  have hall := h.mostOpen_append 0 []
  rw [List.append_nil] at hall
  simpa [Token.mostOpen] using hall

theorem Written.tokens (h : f.Written ts) : f.tokens = ts.map rounded := by
  induction h with
  | nil => rfl
  | atom _ ih => rw [Formula.tokens, ih]; rfl
  | group b _ _ ih₁ ih₂ => simp [Formula.tokens, rounded, ih₁, ih₂]

theorem Written.unique (hf : f.Written ts) (hg : g.Written ts) : f = g := by
  let ls : List Lexeme := ts.map fun t => ⟨t, 0⟩
  let limit : Int := max f.depth g.depth
  have hls : ls.map (·.token) = ts := by simp [ls, Function.comp_def]
  have hread : ∀ h : Formula, h.Written ts → h.depth ≤ limit.toNat →
      ls.foldlM (Frames.push limit) .empty = .ok ⟨h.reverse, []⟩ := fun h hh hd =>
    Frames.foldlM_push_of_written hh hls .empty (within_top.2 hd)
  have hsame := (hread f hf (by omega)).symm.trans (hread g hg (by omega))
  have hrow : f.reverse = g.reverse := by simpa using hsame
  rw [← reverse_reverse f, hrow, reverse_reverse]

theorem tokens_inj (h : f.tokens = g.tokens) : f = g :=
  f.written_tokens.unique (h ▸ g.written_tokens)

/-- Texts are read as long as their brackets balance and have room; what is read is the row of
tokens, and whatever has the same row is read as the same. -/
theorem read_iff_balanced (limit : Int) (source : String) :
    ((∃ f, read limit source = .ok f) ↔ ∃ ls, tokenize source = .ok ls ∧
      Balanced (ls.map (·.token)) ∧ mostOpen 0 (ls.map (·.token)) ≤ limit.toNat) ∧
    (∀ f, read limit source = .ok f → ∃ ls, tokenize source = .ok ls ∧
      f.tokens = (ls.map (·.token)).map rounded) ∧
    ∀ limit' source' f g ls ls', read limit source = .ok f → read limit' source' = .ok g →
      tokenize source = .ok ls → tokenize source' = .ok ls' →
      (ls.map (·.token)).map rounded = (ls'.map (·.token)).map rounded → f = g := by
  refine ⟨?_, ?_, ?_⟩
  · constructor
    · intro h
      obtain ⟨f, hf⟩ := h
      obtain ⟨ls, hls, hwritten, hdepth⟩ := read_eq_ok.1 hf
      exact ⟨ls, hls, balanced_iff_written.2 ⟨f, hwritten⟩, hwritten.mostOpen ▸ hdepth⟩
    · intro h
      obtain ⟨ls, hls, hbalanced, hopen⟩ := h
      obtain ⟨f, hwritten⟩ := balanced_iff_written.1 hbalanced
      exact ⟨f, read_eq_ok.2 ⟨ls, hls, hwritten, hwritten.mostOpen ▸ hopen⟩⟩
  · intro f hf
    obtain ⟨ls, hls, hwritten, -⟩ := read_eq_ok.1 hf
    exact ⟨ls, hls, hwritten.tokens⟩
  · intro limit' source' f g ls ls' hf hg hls hls' hsame
    obtain ⟨ks, hks, hwritten, -⟩ := read_eq_ok.1 hf
    obtain ⟨ks', hks', hwritten', -⟩ := read_eq_ok.1 hg
    obtain rfl : ks = ls := Except.ok.inj (hks.symm.trans hls)
    obtain rfl : ks' = ls' := Except.ok.inj (hks'.symm.trans hls')
    exact tokens_inj (by rw [hwritten.tokens, hwritten'.tokens, hsame])

set_option maxRecDepth 8000 in
theorem read_square_as_round : ∃ f, read 1 "[x]" = .ok f ∧ read 1 "(x)" = .ok f := by
  have hsquare : tokenize "[x]" =
      .ok [⟨.opening .square, 0⟩, ⟨.atom (.unknown "x"), 1⟩, ⟨.closing .square, 2⟩] := by
    cbv
  have hround : tokenize "(x)" =
      .ok [⟨.opening .round, 0⟩, ⟨.atom (.unknown "x"), 1⟩, ⟨.closing .round, 2⟩] := by
    cbv
  have hbalanced : ∀ b, Balanced [.opening b, .atom (.unknown "x"), .closing b] := fun b =>
    .group b (.atom _ .nil) .nil
  obtain ⟨f, hf⟩ := (read_iff_balanced 1 "[x]").1.2 ⟨_, hsquare, hbalanced .square, by decide⟩
  obtain ⟨g, hg⟩ := (read_iff_balanced 1 "(x)").1.2 ⟨_, hround, hbalanced .round, by decide⟩
  obtain rfl := (read_iff_balanced 1 "[x]").2.2 1 "(x)" f g _ _ hf hg hsquare hround rfl
  exact ⟨f, hf, hg⟩

end Formula
end Reckon
