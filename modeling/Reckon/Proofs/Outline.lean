import Reckon.CommandLine.Dialogue
import Reckon.Proofs.Exact
import Reckon.Proofs.Splicing

/-! Formulas written item by item. Each item has a line of its own, in the order of the tokens and
as far in as brackets are open in front of it; and from the lines the formula can be told. -/
namespace Reckon
open Text Numeral CommandLine

/-! The items come off the stack in the order in which they are written. -/

namespace Stack

theorem visit_push (depth : Nat) (f : Formula) (stack : Stack) :
    visit (push depth f.nodes stack) = f.rows depth ++ visit stack := by
  induction f generalizing depth stack with
  | nil => rfl
  | atom a rest ih =>
    rw [push_eq, Formula.nodes, List.map_cons, List.cons_append, visit, ← push_eq, ih]
    rfl
  | group inner rest ih₁ ih₂ =>
    rw [push_eq, Formula.nodes, List.map_cons, List.cons_append, visit, ← push_eq, ih₁, ih₂,
      ← List.append_assoc]
    rfl

end Stack

namespace Token

def item? : Token → Option Item
  | .atom a => some (.atom a)
  | .opening _ => some .group
  | .closing _ => none

def begun (ts : List Token) : Nat := (ts.filterMap item?).length

def openAfter (k : Nat) : List Token → Nat
  | [] => k
  | .atom _ :: ts => openAfter k ts
  | .opening _ :: ts => openAfter (k + 1) ts
  | .closing _ :: ts => openAfter (k - 1) ts

/-- The items that begin among the tokens, each with the number of brackets open in front of it. -/
def listed (k : Nat) : List Token → List (Nat × Item)
  | [] => []
  | .atom a :: ts => (k, .atom a) :: listed k ts
  | .opening _ :: ts => (k, .group) :: listed (k + 1) ts
  | .closing _ :: ts => listed (k - 1) ts

theorem listed_append (k : Nat) (us ts : List Token) :
    listed k (us ++ ts) = listed k us ++ listed (openAfter k us) ts := by
  induction us generalizing k with
  | nil => rfl
  | cons u us ih => cases u <;> simp [listed, openAfter, ih]

theorem length_listed (k : Nat) (ts : List Token) : (listed k ts).length = begun ts := by
  induction ts generalizing k with
  | nil => rfl
  | cons t ts ih =>
    rw [begun, List.filterMap_cons]
    cases t with
    | atom a => exact congrArg Nat.succ (ih k)
    | opening b => exact congrArg Nat.succ (ih (k + 1))
    | closing b => exact ih (k - 1)

theorem listed_tokens (k : Nat) (f : Formula) (ts : List Token) :
    listed k (f.tokens ++ ts) = f.rows k ++ listed k ts := by
  induction f generalizing k ts with
  | nil => rfl
  | atom a rest ih => simp [Formula.tokens, Formula.rows, listed, ih]
  | group inner rest ih₁ ih₂ => simp [Formula.tokens, Formula.rows, listed, ih₁, ih₂]

end Token

namespace Formula
open Token

theorem rows_add (k depth : Nat) (f : Formula) :
    f.rows (k + depth) = (f.rows depth).map fun row => (k + row.1, row.2) := by
  induction f generalizing depth with
  | nil => rfl
  | atom a rest ih => simp [rows, ih]
  | group inner rest ih₁ ih₂ => simp [rows, Nat.add_assoc, ih₁, ih₂]

theorem length_rows (depth : Nat) (f : Formula) : (f.rows depth).length = f.size := by
  induction f generalizing depth with
  | nil => rfl
  | atom a rest ih => simp [rows, size, ih]
  | group inner rest ih₁ ih₂ => simp [rows, size, ih₁, ih₂]

/-! From rows back to the formula. -/

def level (levels : List Formula) (depth : Nat) : Formula := levels.getD depth .nil

theorem level_place_atom (a : Atom) (depth k : Nat) (levels : List Formula) :
    level (place depth (.atom a) levels) k =
      if k = depth then atom a (level levels depth) else level levels k := by
  induction depth generalizing levels k with
  | zero => cases levels <;> cases k <;> simp [place, level]
  | succ depth ih =>
    cases k with
    | zero => cases levels <;> simp [place, level]
    | succ k =>
      cases levels with
      | nil => simpa [place, level] using ih k []
      | cons row levels => simpa [place, level] using ih k levels

theorem level_place_group (depth k : Nat) (levels : List Formula) :
    level (place depth .group levels) k =
      if k = depth then group (level levels (depth + 1)) (level levels depth)
      else if k = depth + 1 then nil
      else level levels k := by
  induction depth generalizing levels k with
  | zero =>
    cases levels with
    | nil => cases k <;> simp [place, level]
    | cons row levels =>
      cases levels with
      | nil => cases k <;> simp [place, level]
      | cons inner levels =>
        cases k with
        | zero => simp [place, level]
        | succ k => cases k <;> simp [place, level]
  | succ depth ih =>
    cases k with
    | zero => cases levels <;> simp [place, level]
    | succ k =>
      cases levels with
      | nil => simpa [place, level] using ih k []
      | cons row levels => simpa [place, level] using ih k levels

/-- The rows of a formula go in front of the row that begins at their depth, and leave none further
in behind. -/
theorem level_rows (f : Formula) (depth : Nat) {levels : List Formula}
    (h : ∀ k, depth < k → level levels k = nil) (k : Nat) :
    level ((f.rows depth).foldr (fun row levels => place row.1 row.2 levels) levels) k =
      if k = depth then f ++ level levels depth else level levels k := by
  induction f generalizing depth levels k with
  | nil =>
    split
    · next hk => rw [hk]; rfl
    · rfl
  | atom a rest ih =>
    rw [rows, List.foldr_cons, level_place_atom, ih depth h, ih depth h, if_pos rfl]
    split
    · rfl
    · rfl
  | group inner rest ih₁ ih₂ =>
    -- The rest leaves nothing further in, so what is there when the group is placed is all inner.
    have hrest := ih₂ depth h
    generalize hbehind :
      (rest.rows depth).foldr (fun row levels => place row.1 row.2 levels) levels = behind at hrest
    have hnone : ∀ k, depth < k → level behind k = nil := by
      intro k hk
      rw [hrest, if_neg (Nat.ne_of_gt hk), h k hk]
    have htop := ih₁ (depth + 1) fun k hk => hnone k (Nat.lt_of_succ_lt hk)
    generalize hall : (inner.rows (depth + 1)).foldr
      (fun row levels => place row.1 row.2 levels) behind = top at htop
    have hinner : level top (depth + 1) = inner := by
      rw [htop, if_pos rfl, hnone _ (Nat.lt_succ_self depth), append_nil]
    have hrow : level top depth = rest ++ level levels depth := by
      rw [htop, if_neg (by omega), hrest, if_pos rfl]
    rw [rows, List.foldr_cons, List.foldr_append, hbehind, hall, level_place_group, hinner, hrow]
    by_cases hk : k = depth
    · rw [if_pos hk, if_pos hk, group_append]
    · rw [if_neg hk, if_neg hk]
      by_cases hk' : k = depth + 1
      · rw [if_pos hk', h k (by omega)]
      · rw [if_neg hk', htop, if_neg hk', hrest, if_neg hk]

theorem ofRows_rows (f : Formula) : ofRows (f.rows 0) = f := by
  have hlevel := f.level_rows 0 (fun k _ => rfl : ∀ k, 0 < k → level [] k = nil) 0
  have hnone : level [] 0 = nil := rfl
  rw [if_pos rfl, hnone, append_nil, level] at hlevel
  rw [ofRows]
  generalize (f.rows 0).foldr _ _ = levels at hlevel ⊢
  cases levels with
  | nil => exact hlevel
  | cons row levels => exact hlevel

end Formula

/-! From a line back to its item. -/

def lineOf (row : Nat × Item) : String := indented row.1 row.2.line

def Item.letter : Item → Char
  | atom (.number _) => 'n'
  | atom (.unknown _) => 'v'
  | atom (.binary _) => 'b'
  | atom (.function _) => 'f'
  | group => 'g'

theorem Item.head?_line (i : Item) : i.line.toList.head? = some i.letter := by
  cases i with
  | group => rfl
  | atom a => cases a <;> simp [line, letter]

theorem Item.line_injective : Function.Injective Item.line := by
  intro i j h
  have hletter : i.letter = j.letter := by
    have hhead := congrArg (·.toList.head?) h
    simpa only [head?_line, Option.some.injEq] using hhead
  rcases i with (x | name | op | f) | _ <;> rcases j with (y | name' | op' | g) | _ <;>
    simp [letter] at hletter
  · rw [exactText_injective ((String.append_right_inj _).1 h)]
  · rw [(String.append_right_inj _).1 h]
  · rw [Binary.symbol_injective ((String.append_right_inj _).1 h)]
  · rw [Elementary.name_injective ((String.append_right_inj _).1 h)]
  · rfl

theorem takeWhile_indented (depth : Nat) (i : Item) :
    (indented depth i.line).toList.takeWhile (· == ' ') = List.replicate (2 * depth) ' ' ∧
      (indented depth i.line).toList.dropWhile (· == ' ') = i.line.toList := by
  have hblanks : ∀ c ∈ List.replicate (2 * depth) ' ', (c == ' ') = true := by simp
  have hletter : (i.letter == ' ') = false := by
    cases i with
    | group => rfl
    | atom a => cases a <;> rfl
  obtain ⟨cs, hcs⟩ := List.head?_eq_some_iff.1 i.head?_line
  rw [indented, String.toList_append, String.toList_ofList, List.takeWhile_append_of_pos hblanks,
    List.dropWhile_append_of_pos hblanks, hcs]
  simp [hletter]

theorem lineOf_injective : Function.Injective lineOf := by
  intro row row' h
  obtain ⟨htake, hdrop⟩ := takeWhile_indented row.1 row.2
  obtain ⟨htake', hdrop'⟩ := takeWhile_indented row'.1 row'.2
  have hchars := congrArg String.toList h
  rw [lineOf, lineOf] at hchars
  rw [hchars, htake'] at htake
  rw [hchars, hdrop'] at hdrop
  have hdepth : 2 * row'.1 = 2 * row.1 := by simpa using congrArg List.length htake
  have hline : row'.2.line = row.2.line := String.toList_inj.1 hdrop
  exact Prod.ext (by omega) (Item.line_injective hline.symm)

/-! From the text back to its lines. -/

theorem lines_append {line : List Char} (h : '\n' ∉ line) (cs : List Char) :
    lines (line ++ '\n' :: cs) = line :: lines cs := by
  induction line with
  | nil => simp [lines]
  | cons c line ih =>
    obtain ⟨hc, hline⟩ := not_or.1 (mt List.mem_cons.2 h)
    simp [lines, ih hline, Ne.symm hc]

theorem lines_sayLines {ls : List String} (h : ∀ l ∈ ls, '\n' ∉ l.toList) :
    lines (Transcript.sayLines ls).out.toList = ls.map String.toList := by
  induction ls with
  | nil => rfl
  | cons l ls ih =>
    obtain ⟨hl, hls⟩ := List.forall_mem_cons.1 h
    have hout : (Transcript.sayLines (l :: ls)).out.toList =
        l.toList ++ '\n' :: (Transcript.sayLines ls).out.toList := by
      simp [Transcript.sayLines, Transcript.say]
    rw [hout, lines_append hl, ih hls, List.map_cons]

namespace Formula
open Token

def Named (f : Formula) : Prop := ∀ name ∈ f.unknowns, ∀ c ∈ name.toList, isNameChar c = true

theorem outline_eq (f : Formula) : f.outline = (f.rows 0).map lineOf := by
  rw [outline, Stack.visit_push, Stack.visit, List.append_nil]
  rfl

theorem not_break_of_mem_line {f : Formula} (h : f.Named) {depth : Nat} {i : Item}
    (hi : (depth, i) ∈ f.rows 0) : '\n' ∉ i.line.toList := by
  cases i with
  | group => decide
  | atom a =>
    cases a with
    | number x =>
      have hplain : '\n' ∉ (exactText x).toList := fun hmem =>
        absurd (isPlain_of_mem_exactText x '\n' hmem) (by decide)
      simpa [Item.line] using hplain
    | unknown name =>
      have hname : '\n' ∉ name.toList := fun hmem =>
        absurd (h name ((mem_unknowns_iff_rows 0).2 ⟨depth, hi⟩) '\n' hmem) (by decide)
      simpa [Item.line] using hname
    | binary op => cases op <;> decide
    | function f => cases f <;> decide

theorem lines_outline {f : Formula} (h : f.Named) :
    lines (Transcript.sayLines f.outline).out.toList = f.outline.map String.toList := by
  refine lines_sayLines fun l hl => ?_
  rw [outline_eq] at hl
  obtain ⟨row, hrow, rfl⟩ := List.mem_map.1 hl
  rw [lineOf, indented, String.toList_append, String.toList_ofList, List.mem_append, not_or]
  exact ⟨by simp, not_break_of_mem_line h hrow⟩

theorem eq_of_sayLines {f g : Formula} (hf : f.Named) (hg : g.Named)
    (h : (Transcript.sayLines f.outline).out = (Transcript.sayLines g.outline).out) : f = g := by
  have hlines : f.outline.map String.toList = g.outline.map String.toList := by
    rw [← lines_outline hf, h, lines_outline hg]
  have houtline : f.outline = g.outline :=
    List.map_injective_iff.2 (fun _ _ => String.toList_inj.1) hlines
  rw [outline_eq, outline_eq] at houtline
  have hrows : f.rows 0 = g.rows 0 := List.map_injective_iff.2 lineOf_injective houtline
  rw [← f.ofRows_rows, hrows, g.ofRows_rows]

/-! The lines by the tokens that they are for. -/

theorem indented_indented (k depth : Nat) (line : String) :
    indented k (indented depth line) = indented (k + depth) line := by
  rw [indented, indented, indented, ← String.append_assoc, ← String.ofList_append,
    List.replicate_append_replicate, Nat.mul_add]

theorem outline_of_split {f : Formula} {before ts : List Token} (h : f.tokens = before ++ ts) :
    f.outline = (listed 0 before).map lineOf ++ (listed (openAfter 0 before) ts).map lineOf := by
  have hrows := listed_tokens 0 f []
  rw [List.append_nil, listed, List.append_nil] at hrows
  rw [outline_eq, ← hrows, h, listed_append, List.map_append]

theorem map_lineOf_rows (k : Nat) (f : Formula) :
    (f.rows k).map lineOf = f.outline.map (indented k) := by
  have hrows := f.rows_add k 0
  rw [Nat.add_zero] at hrows
  rw [hrows, outline_eq, List.map_map, List.map_map]
  refine List.map_congr_left fun row _ => ?_
  exact (indented_indented k row.1 row.2.line).symm

theorem listed_cons {t : Token} {item : Item} (h : t.item? = some item) (k : Nat)
    (ts : List Token) : ∃ k', listed k (t :: ts) = (k, item) :: listed k' ts := by
  cases t with
  | atom a => cases h; exact ⟨k, rfl⟩
  | opening b => cases h; exact ⟨k + 1, rfl⟩
  | closing b => cases h

theorem begun_tokens (f : Formula) : begun f.tokens = f.size := by
  have hrows := listed_tokens 0 f []
  rw [List.append_nil, listed, List.append_nil] at hrows
  rw [← length_listed 0, hrows, length_rows]

end Formula

open Token

/-- A formula is written with one line for each of its items, in the order of its tokens, each as
far in as brackets are open in front of it; what is in a group follows the line of the group at
once, one step further in. No two formulas are written alike. -/
theorem outline_determines_formula (f : Formula) :
    (f.outline.length = f.size ∧ begun f.tokens = f.size) ∧
    (∀ before t after item, f.tokens = before ++ t :: after → t.item? = some item →
      f.outline[begun before]? = some (indented (openAfter 0 before) item.line)) ∧
    (∀ before (inner : Formula) after,
      f.tokens = before ++ .opening .round :: (inner.tokens ++ .closing .round :: after) →
        ∃ above below, above.length = begun before ∧
          f.outline = above ++ indented (openAfter 0 before) "group" ::
            (inner.outline.map (indented (openAfter 0 before + 1)) ++ below)) ∧
    ∀ g : Formula, f.Named → g.Named →
      (Transcript.sayLines f.outline).out = (Transcript.sayLines g.outline).out → f = g := by
  refine ⟨⟨?_, f.begun_tokens⟩, fun before t after item hf ht => ?_,
    fun before inner after hf => ?_, fun g hf hg => Formula.eq_of_sayLines hf hg⟩
  · rw [Formula.outline_eq, List.length_map, Formula.length_rows]
  · obtain ⟨k, hlisted⟩ := Formula.listed_cons ht (openAfter 0 before) after
    have hbegun : begun before = ((listed 0 before).map lineOf).length := by
      rw [List.length_map, length_listed]
    rw [Formula.outline_of_split hf, hlisted, List.map_cons, hbegun,
      List.getElem?_append_right (Nat.le_refl _), Nat.sub_self]
    rfl
  · refine ⟨(listed 0 before).map lineOf, (listed (openAfter 0 before) after).map lineOf, ?_, ?_⟩
    · rw [List.length_map, length_listed]
    · rw [Formula.outline_of_split hf, ← Formula.map_lineOf_rows, listed, List.map_cons,
        listed_tokens, List.map_append]
      rfl

/-- Nothing in a group next to a zero in another one is not a group in a group, and neither is a
zero with a sign one without. -/
theorem outline_of_groups_and_zeros :
    let side : Float → Formula := fun x => .group .nil (.group (.atom (.number x) .nil) .nil)
    let within : Formula := .group (.group (.atom (.number 0) .nil) .nil) .nil
    let text : Formula → String := fun f => (Transcript.sayLines f.outline).out
    (side 0).outline.length = 3 ∧ text (side 0) ≠ text within ∧
      text (side 0) ≠ text (side (-0)) := by
  intro side within text
  have hnamed : ∀ f : Formula, f.unknowns = [] → f.Named := by
    intro f hf name hname
    rw [hf] at hname
    cases hname
  have hzero : (0 : Float) ≠ -0 := by
    intro h
    have hkind := congrArg kind h
    rw [kind_neg, kind_zero] at hkind
    cases hkind
  obtain ⟨⟨hlength, -⟩, -, -, honly⟩ := outline_determines_formula (side 0)
  refine ⟨hlength, fun h => ?_, fun h => ?_⟩
  · have hsame := honly within (hnamed _ rfl) (hnamed _ rfl) h
    simp [side, within] at hsame
  · have hsame := honly (side (-0)) (hnamed _ rfl) (hnamed _ rfl) h
    simp only [side, Formula.group.injEq, Formula.atom.injEq, Atom.number.injEq] at hsame
    exact hzero hsame.2.1.1

end Reckon
