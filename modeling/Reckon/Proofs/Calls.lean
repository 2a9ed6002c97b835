import Reckon.Proofs.Requests

/-! Numbers bound call by call. A name that has been given a number is gone, and no later call finds
it; so all calls together are one replacement, in which a name gets its number from the first call
that mentions it. -/
namespace Reckon

/-- A call that binds numbers: one name to one, or every name of a mapping to its own. Of several
entries for one name a mapping keeps the last. -/
inductive Call where
  | one (name : String) (x : Float)
  | all (entries : List (String × Float))

namespace Call

def names : Call → List String
  | one name _ => [name]
  | all entries => entries.map Prod.fst

def value? : Call → String → Option Float
  | one name x, other => if other = name then some x else none
  | all entries, other => entries.reverse.lookup other

def firstValue? (cs : List Call) (name : String) : Option Float := cs.findSome? (·.value? name)

end Call

def Token.given (ν : String → Option Float) : Token → Token
  | .atom (.unknown name) => .atom ((ν name).elim (.unknown name) .number)
  | t => t

namespace Expression

def call (e : Expression) : Call → Expression
  | .one name x => e.bind name x
  | .all entries => e.bindAll (.ofList entries)

def calls (e : Expression) (cs : List Call) : Expression := cs.foldl call e

end Expression

namespace Call
variable {c : Call} {cs ds : List Call} {name : String}

def values : Call → Bindings
  | one name x => [(name, x)]
  | all entries => .ofList entries

theorem lookup_values (c : Call) (name : String) : c.values.lookup name = c.value? name := by
  cases c with
  | one other x =>
    by_cases h : name = other
    · subst h
      simp [values, value?]
    · have hne : (name == other) = false := beq_eq_false_iff_ne.2 h
      simp [values, value?, List.lookup_cons, hne, h]
  | all entries => exact Bindings.lookup_ofList entries name

theorem lookup_flatMap_values (cs : List Call) (name : String) :
    (cs.flatMap values).lookup name = firstValue? cs name := by
  induction cs with
  | nil => rfl
  | cons c cs ih =>
    rw [List.flatMap_cons, List.lookup_append, lookup_values, ih, firstValue?, firstValue?,
      List.findSome?_cons]
    cases c.value? name <;> rfl

theorem value?_eq_none_iff : c.value? name = none ↔ name ∉ c.names := by
  cases c with
  | one other x => by_cases h : name = other <;> simp [value?, names, h]
  | all entries =>
    have hall := @lookup_ne_none entries.reverse name
    rw [List.map_reverse, List.mem_reverse] at hall
    exact not_iff_not.1 (hall.trans not_not.symm)

theorem firstValue?_eq_none_iff :
    firstValue? cs name = none ↔ name ∉ cs.flatMap names := by
  simp only [firstValue?, List.findSome?_eq_none_iff, value?_eq_none_iff, List.mem_flatMap,
    not_exists, not_and]

theorem firstValue?_append (cs ds : List Call) (name : String) :
    firstValue? (cs ++ ds) name = (firstValue? cs name).or (firstValue? ds name) :=
  List.findSome?_append

theorem firstValue?_cons (c : Call) (cs : List Call) (name : String) :
    firstValue? (c :: cs) name = (c.value? name).or (firstValue? cs name) := by
  rw [firstValue?, List.findSome?_cons]
  cases c.value? name <;> rfl

theorem firstValue?_filter (cs : List Call) (name : String) :
    firstValue? (cs.filter (name ∈ ·.names)) name = firstValue? cs name := by
  induction cs with
  | nil => rfl
  | cons c cs ih =>
    by_cases h : name ∈ c.names
    · rw [List.filter_cons_of_pos (by simpa using h), firstValue?_cons, firstValue?_cons, ih]
    · rw [List.filter_cons_of_neg (by simpa using h), firstValue?_cons, ih,
        value?_eq_none_iff.2 h, Option.none_or]

/-- A call that mentions no new name is not heard. -/
theorem firstValue?_absorb (h : ∀ name ∈ c.names, name ∈ cs.flatMap names) (name : String) :
    firstValue? (cs ++ c :: ds) name = firstValue? (cs ++ ds) name := by
  rw [firstValue?_append, firstValue?_append, firstValue?_cons]
  by_cases hname : name ∈ c.names
  · have hfirst : firstValue? cs name ≠ none := fun hnone =>
      firstValue?_eq_none_iff.1 hnone (h name hname)
    obtain ⟨x, hx⟩ := Option.ne_none_iff_exists'.1 hfirst
    rw [hx, Option.some_or, Option.some_or]
  · rw [value?_eq_none_iff.2 hname, Option.none_or]

end Call

namespace Bindings

theorem lookup_eq_some_iff_mem {values : List (String × Float)} {name : String} {x : Float}
    (h : (values.map Prod.fst).Nodup) : values.lookup name = some x ↔ (name, x) ∈ values := by
  induction values with
  | nil => simp
  | cons value values ih =>
    obtain ⟨key, y⟩ := value
    obtain ⟨hkey, hvalues⟩ := List.nodup_cons.1 h
    by_cases hname : name = key
    · subst hname
      have hrest : (name, x) ∉ values := fun hmem => hkey (List.mem_map.2 ⟨_, hmem, rfl⟩)
      simp [hrest, eq_comm]
    · have hne : (name == key) = false := beq_eq_false_iff_ne.2 hname
      simp [List.lookup_cons, hne, hname, ih hvalues]

theorem lookup_reverse_of_perm {entries others : List (String × Float)}
    (h : (entries.map Prod.fst).Nodup) (hperm : entries.Perm others) (name : String) :
    entries.reverse.lookup name = others.reverse.lookup name := by
  have hentries : (entries.reverse.map Prod.fst).Nodup := by
    rw [List.map_reverse]
    exact List.nodup_reverse.2 h
  have hothers : (others.reverse.map Prod.fst).Nodup := by
    rw [List.map_reverse]
    exact List.nodup_reverse.2 ((hperm.map Prod.fst).nodup_iff.1 h)
  refine Option.ext fun x => ?_
  rw [lookup_eq_some_iff_mem hentries, lookup_eq_some_iff_mem hothers, List.mem_reverse,
    List.mem_reverse, hperm.mem_iff]

end Bindings

theorem Formula.tokens_replace_ofBindings (f : Formula) (values : Bindings) :
    (f.replace (.ofBindings values)).tokens = f.tokens.map (.given (values.lookup ·)) := by
  induction f with
  | nil => rfl
  | atom a rest ih =>
    cases a with
    | unknown name =>
      cases h : values.lookup name with
      | none =>
        have hσ : Assignment.ofBindings values name = none := by rw [Assignment.ofBindings, h]; rfl
        rw [replace_unknown_stays hσ, tokens, tokens, ih, List.map_cons, Token.given, h]
        rfl
      | some x =>
        have hσ : Assignment.ofBindings values name = some (.number x) := by
          rw [Assignment.ofBindings, h]
          rfl
        rw [replace_unknown_found hσ, Entry.onto, tokens, tokens, ih, List.map_cons, Token.given, h]
        rfl
    | number x => exact congrArg (List.cons _) ih
    | binary op => exact congrArg (List.cons _) ih
    | function g => exact congrArg (List.cons _) ih
  | group inner rest ih₁ ih₂ =>
    rw [replace_group, tokens, tokens, ih₁, ih₂, List.map_append, List.map_cons, List.map_cons]
    rfl

namespace Expression
variable {e : Expression} {cs ds : List Call}

theorem calls_eq_bindAll (e : Expression) (cs : List Call) :
    e.calls cs = e.bindAll (cs.flatMap Call.values) := by
  induction cs generalizing e with
  | nil => rfl
  | cons c cs ih =>
    have hfirst : e.call c = e.bindAll c.values := by cases c <;> rfl
    rw [List.flatMap_cons, bindAll_append, ← hfirst, ← ih]
    rfl

theorem calls_congr (h : ∀ name, Call.firstValue? cs name = Call.firstValue? ds name) :
    e.calls cs = e.calls ds := by
  rw [calls_eq_bindAll, calls_eq_bindAll]
  refine bindAll_congr fun name => ?_
  rw [Call.lookup_flatMap_values, Call.lookup_flatMap_values, h name]

/-- All calls together replace every unknown at once by the number that the first call to mention it
has for it. So a call without a new name can be left out, entries of a mapping can change places,
and so can calls that have no name in common: what comes out is the same expression. -/
theorem calls_replace_at_once (e : Expression) (cs : List Call) :
    (e.calls cs).settings = e.settings ∧
    (e.calls cs).formula =
      e.formula.replace (fun name => (Call.firstValue? cs name).map .number) ∧
    (e.calls cs).formula.tokens = e.formula.tokens.map (.given (Call.firstValue? cs)) ∧
    (e.calls cs).unresolved = e.unresolved.filter (· ∉ cs.flatMap Call.names) ∧
    (∀ us c vs, cs = us ++ c :: vs → (∀ name ∈ c.names, name ∈ us.flatMap Call.names) →
      e.calls cs = e.calls (us ++ vs)) ∧
    (∀ us vs entries others, cs = us ++ .all entries :: vs → (entries.map Prod.fst).Nodup →
      entries.Perm others → e.calls cs = e.calls (us ++ .all others :: vs)) ∧
    ∀ ds, (∀ name, cs.filter (name ∈ ·.names) = ds.filter (name ∈ ·.names)) →
      e.calls cs = e.calls ds := by
  have hlookup : (fun name => (cs.flatMap Call.values).lookup name) = Call.firstValue? cs :=
    funext (Call.lookup_flatMap_values cs)
  refine ⟨?_, ?_, ?_, ?_, ?_, ?_, ?_⟩
  · rw [calls_eq_bindAll, settings_bindAll]
  · rw [calls_eq_bindAll, formula_bindAll, ← hlookup]
    rfl
  · rw [calls_eq_bindAll, formula_bindAll, Formula.tokens_replace_ofBindings, hlookup]
  · rw [calls_eq_bindAll, unresolved_bindAll, missing]
    refine List.filter_congr fun name _ => ?_
    have hnames := not_congr (@lookup_ne_none (cs.flatMap Call.values) name)
    rw [not_not, Call.lookup_flatMap_values, Call.firstValue?_eq_none_iff] at hnames
    exact decide_eq_decide.2 hnames.symm
  · rintro us c vs rfl hnames
    exact calls_congr (Call.firstValue?_absorb hnames)
  · rintro us vs entries others rfl hnodup hperm
    refine calls_congr fun name => ?_
    have hvalue : (Call.all entries).value? name = (Call.all others).value? name :=
      Bindings.lookup_reverse_of_perm hnodup hperm name
    rw [Call.firstValue?_append, Call.firstValue?_append, Call.firstValue?_cons,
      Call.firstValue?_cons, hvalue]
  · intro ds hsame
    refine calls_congr fun name => ?_
    rw [← Call.firstValue?_filter cs, ← Call.firstValue?_filter ds, hsame name]

/-- `x + (x * y)`. In the mapping the second number for `x` counts, and it is there to stay when
`x` is bound once more. -/
theorem calls_of_mapping_then_name :
    let e : Expression := ⟨.atom (.unknown "x") (.atom (.binary .add) (.group
      (.atom (.unknown "x") (.atom (.binary .multiply) (.atom (.unknown "y") .nil))) .nil)),
      .standard⟩
    let mapping := [("x", 1), ("y", 2), ("x", 3)]
    (∀ name ∈ (Call.one "x" 4).names, name ∈ [Call.all mapping].flatMap Call.names) ∧
      e.calls [.all mapping, .one "x" 4] = e.calls [.all mapping] ∧
      (e.calls [.all mapping]).formula = .atom (.number 3) (.atom (.binary .add) (.group
        (.atom (.number 3) (.atom (.binary .multiply) (.atom (.number 2) .nil))) .nil)) ∧
      e.calls [.all [("y", 2), ("x", 3)]] = e.calls [.all [("x", 3), ("y", 2)]] ∧
      e.calls [.one "x" 3, .one "y" 2] = e.calls [.one "y" 2, .one "x" 3] := by
  intro e mapping
  have hnames : ∀ name ∈ (Call.one "x" 4).names, name ∈ [Call.all mapping].flatMap Call.names := by
    decide
  have hnodup : ([("y", (2 : Float)), ("x", 3)].map Prod.fst).Nodup := by decide
  have hreorder : ∀ name, [Call.one "x" 3, .one "y" 2].filter (name ∈ ·.names) =
      [Call.one "y" 2, .one "x" 3].filter (name ∈ ·.names) := by
    intro name
    by_cases hx : name = "x"
    · subst hx
      rfl
    · have hother : decide (name ∈ (Call.one "x" 3).names) = false := by simp [Call.names, hx]
      cases hy : decide (name ∈ (Call.one "y" 2).names) with
      | false =>
        simp only [List.filter_cons, hother, hy]
        rfl
      | true =>
        simp only [List.filter_cons, hother, hy]
        rfl
  obtain ⟨-, -, -, -, hrepeat, -⟩ := calls_replace_at_once e [.all mapping, .one "x" 4]
  obtain ⟨-, -, -, -, -, hpermute, -⟩ := calls_replace_at_once e [.all [("y", 2), ("x", 3)]]
  obtain ⟨-, -, -, -, -, -, horder⟩ := calls_replace_at_once e [.one "x" 3, .one "y" 2]
  exact ⟨hnames, hrepeat [.all mapping] (.one "x" 4) [] rfl hnames, rfl,
    hpermute [] [] _ _ rfl hnodup (.swap _ _ []), horder _ hreorder⟩

end Expression
end Reckon
