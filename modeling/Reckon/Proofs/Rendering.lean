import Reckon.Expression
import Reckon.Proofs.Layout
import Reckon.Proofs.Meaning
import Reckon.Proofs.Segments

/-! Formulas rendered and read again. Between two items there is a space or a bracket, so no two of
them run together; and each item is read as what it is, unless it has no text of its own. -/
namespace Reckon
open Text Numeral

/-- What is read as itself. A root has no sign in a text, an infinity is read as a name, a number
with a sign as two items, and one below a ten-thousandth as more; a name must not be taken. -/
def Atom.Writable : Atom → Prop
  | number x => Plain x
  | unknown name => name ≠ "" ∧ (∀ c ∈ name.toList, isNameChar c = true) ∧
      Elementary.ofName? name = none
  | binary op => op ≠ .root
  | function _ => True

theorem head_of_names {cs : List Char} {x : Float} (h : Names cs x) :
    head cs = .token (.atom (.number x)) cs [] := by
  obtain ⟨c, rest, rfl, hc⟩ := h.starts
  have hrest := (List.forall_mem_cons.1 h.numeral).2
  exact head_numeral hc hrest h.reads

theorem head_toList {s : String} (hne : s ≠ "") (hs : ∀ c ∈ s.toList, isNameChar c = true) :
    head s.toList = .token (.atom (.ofName s)) s.toList [] := by
  have hhead := head_of_nameChars (mt String.toList_eq_nil_iff.1 hne) hs
  rwa [String.ofList_toList] at hhead

theorem Atom.Writable.head_text {a : Atom} (h : a.Writable) :
    head a.text.toList = .token (.atom a) a.text.toList [] := by
  cases a with
  | number x => exact head_of_names (names_plainText h)
  | unknown name =>
    obtain ⟨hne, hname, hfree⟩ := h
    have hhead := head_toList hne hname
    rwa [Atom.ofName, hfree] at hhead
  | binary op =>
    cases op with
    | add | subtract | multiply | divide | power =>
      exact (Begins.symbol (by decide) (by decide) rfl).head_eq
    | root => exact absurd rfl h
  | function f =>
    have hne : f.name ≠ "" := by cases f <;> decide
    have hhead := head_toList hne (isNameChar_of_mem_name f)
    rwa [Atom.ofName, Elementary.ofName?_name] at hhead

namespace Formula

def Writable : Formula → Prop
  | nil => True
  | atom a rest => a.Writable ∧ rest.Writable
  | group inner rest => inner.Writable ∧ rest.Writable

theorem partsFrom_writeOnto (f : Formula) {rest : List Char} (h : PartsFrom rest) :
    PartsFrom (f.writeOnto false rest) := by
  cases f with
  | nil => exact h
  | atom a next => exact partsFrom_cons (by decide) _
  | group inner next => exact partsFrom_cons (by decide) _

theorem segmented_spaced {cs : List Char} {ts : List Token} (leads : Bool) (h : Segmented cs ts) :
    Segmented (if leads then cs else ' ' :: cs) ts := by
  cases leads with
  | true => exact h
  | false =>
    have hblank : ∀ c ∈ [' '], isBlank c = true := List.forall_mem_singleton.2 rfl
    exact h.blanks_append hblank

theorem segmented_writeOnto {f : Formula} (hf : f.Writable) (leads : Bool) {rest : List Char}
    {ts : List Token} (hrest : Segmented rest ts) (hparts : PartsFrom rest) :
    Segmented (f.writeOnto leads rest) (f.tokens ++ ts) := by
  induction f generalizing leads rest ts with
  | nil => exact hrest
  | atom a next ih =>
    have hnext := ih hf.2 false hrest hparts
    have hends := (partsFrom_writeOnto next hparts).endsBefore (.atom a)
    have hatom := @Segmented.token [] _ _ _ _ (by simp) hf.1.head_text hends hnext
    exact segmented_spaced leads hatom
  | group inner next ih₁ ih₂ =>
    have hnext := ih₂ hf.2 false hrest hparts
    have hinner := ih₁ hf.1 true (hnext.closer .round) (partsFrom_cons (by decide) _)
    have hgroup := segmented_spaced leads (hinner.opener .round)
    simpa [writeOnto, tokens, Bracket.opener, Bracket.closer] using hgroup

end Formula

/-- What an expression is rendered as is read as its formula, under every limit that has room for
it; rows need not make sense for this, and groups may be empty. -/
theorem Expression.read_render {e : Expression} (he : e.formula.Writable) (limit : Int) :
    Formula.read limit e.render = if e.formula.depth ≤ limit.toNat then .ok e.formula
      else .error (.tooDeep limit) := by
  have hnothing : Segmented [] [] := .blanks (by simp)
  have hsegmented := Formula.segmented_writeOnto he true hnothing (by simp [PartsFrom])
  rw [List.append_nil] at hsegmented
  refine Formula.read_of_segmented ?_ (Formula.written_tokens e.formula) limit
  rwa [Expression.render, Formula.render, String.toList_ofList]

/-- Two numbers side by side, and a group with nothing in it in front of another one. -/
theorem Expression.read_render_side_by_side :
    let e : Expression := ⟨.atom (.number 0.5) (.atom (.number 2) (.group .nil
      (.group (.atom (.function .sin) (.atom (.unknown "x") .nil)) .nil))), .standard⟩
    e.formula.Writable ∧ e.render = "0.5 2 () (sin x)" ∧
      Formula.read 1 "0.5 2 () (sin x)" = .ok e.formula ∧
      Formula.read 0 "0.5 2 () (sin x)" = .error (.tooDeep 0) := by
  intro e
  have hhalf : Plain 0.5 := ⟨⟨2 ^ 52, -53⟩, rfl, .inr (by norm_num [Dyadic.value])⟩
  have htwo : Plain 2 := ⟨⟨2 ^ 52, -51⟩, rfl, .inl (by decide)⟩
  have hx : (Atom.unknown "x").Writable := ⟨by decide, List.all_eq_true.1 (by decide), by decide⟩
  have he : e.formula.Writable := ⟨hhalf, htwo, trivial, ⟨trivial, hx, trivial⟩, trivial⟩
  have htext : e.render = "0.5 2 () (sin x)" := by decide +kernel
  have hroom := e.read_render he 1
  have hnone := e.read_render he 0
  rw [htext] at hroom hnone
  exact ⟨he, htext, hroom, hnone⟩

end Reckon
