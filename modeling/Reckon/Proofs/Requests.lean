import Reckon.Plain.Toolkit
import Reckon.Proofs.Dialogue
import Reckon.Proofs.Likeness
import Reckon.Proofs.Sections
import Mathlib.Data.List.Sort

/-! A request on the command line comes to the same as one equation solved with all its numbers:
those of the file, over them those given one by one, and for what is left over the answers. -/
namespace Reckon
open Outcome

namespace Bindings

variable {b : Bindings} {name : String} {x : Float} {values others : List (String × Float)}

theorem lookup_filter (values : List (String × Float)) (name : String) :
    (values.filter (·.1 == name)).lookup name = values.lookup name := by
  induction values with
  | nil => rfl
  | cons value values ih =>
    obtain ⟨key, x⟩ := value
    by_cases h : key = name
    · subst h
      simp
    · have hne : (key == name) = false := beq_eq_false_iff_ne.2 h
      have hne' : (name == key) = false := beq_eq_false_iff_ne.2 (Ne.symm h)
      simp [List.lookup_cons, hne, hne', ih]

/-- The same numbers are given for each name, in the same order. Only what is given for different
names may have changed places. -/
def SameByName (values others : List (String × Float)) : Prop :=
  ∀ name, values.filter (·.1 == name) = others.filter (·.1 == name)

theorem SameByName.lookup_reverse (h : SameByName values others) (name : String) :
    values.reverse.lookup name = others.reverse.lookup name := by
  rw [← lookup_filter values.reverse, ← lookup_filter others.reverse, List.filter_reverse,
    List.filter_reverse, h name]

end Bindings

namespace Expression

variable {e : Expression} {values others : Bindings} {name : String}

def missing (e : Expression) (values : Bindings) : List String :=
  e.unresolved.filter (· ∉ values.map Prod.fst)

theorem mem_missing :
    name ∈ e.missing values ↔ name ∈ e.unresolved ∧ values.lookup name = none := by
  rw [missing, List.mem_filter, decide_eq_true_iff, ← lookup_ne_none, not_not]

theorem pairwise_missing (e : Expression) (values : Bindings) :
    (e.missing values).Pairwise (· < ·) :=
  (Text.pairwise_ascending e.formula.unknowns).filter _

theorem missing_congr (h : ∀ name, values.lookup name = others.lookup name) :
    e.missing values = e.missing others := by
  refine (pairwise_missing e values).eq_of_mem_iff (pairwise_missing e others) fun name => ?_
  rw [mem_missing, mem_missing, h name]

theorem unresolved_bindAll (e : Expression) (values : Bindings) :
    (e.bindAll values).unresolved = e.missing values := by
  refine (Text.pairwise_ascending _).eq_of_mem_iff (pairwise_missing e values) fun name => ?_
  rw [mem_missing, unresolved, Formula.mem_unresolved, Text.mem_ascending, formula_bindAll,
    Formula.mem_unknowns_replace_numeric (Assignment.numeric_ofBindings values),
    Assignment.ofBindings, Option.map_eq_none_iff]

theorem bindAll_congr (h : ∀ name, values.lookup name = others.lookup name) :
    e.bindAll values = e.bindAll others := by
  have hsame : Assignment.ofBindings values = .ofBindings others := by
    funext name
    rw [Assignment.ofBindings, Assignment.ofBindings, h name]
  have hformula : (e.bindAll values).formula = (e.bindAll others).formula := by
    rw [formula_bindAll, formula_bindAll, hsame]
  have hsettings : (e.bindAll values).settings = (e.bindAll others).settings := by
    rw [settings_bindAll, settings_bindAll]
  exact congrArg₂ Expression.mk hformula hsettings

theorem CoveredBy.kind_ne_unset {f : Fault}
    (h : e.CoveredBy values) (hf : (e.bindAll values).evaluate = .error f) :
    f.kind ≠ .unsetVariable := by
  have hsame := h.evaluate_alike h
  rw [hf] at hsame
  cases hsame with
  | error _ hset => exact hset

end Expression

namespace CommandLine

/-- What a command line asks for that calls for the solution of an equation: with which settings and
numbers, from a file and one by one. -/
structure Request where
  verbose : Bool
  settings : Settings
  source : String
  listed : Bindings
  assigned : List (String × Float)

variable {L : Libraries} {w : Surroundings} {args lines : List String} {r : Request}
  {e : Expression} {path? : Option String} {texts : List String} {found : Bindings}
  {assigned : List (String × Float)}

/-- The toolkit takes the arguments for the request, in which what is missing may be asked for. -/
def Requests (L : Libraries) (w : Surroundings) (args : List String) (r : Request) : Prop :=
  ∃ (given : Opening) (own : SolveArguments),
    L.kit.opening w.holds args = .ok given ∧ given.verbose = r.verbose ∧ given.command = .solve ∧
    settingsOf L w given.settings? = .ok r.settings ∧
    L.kit.solveArguments w.holds given.arguments = .ok own ∧ own.equation = r.source ∧
    own.asks = true ∧ collect L w own.bindings? [] = .ok r.listed ∧
    own.assignments.mapM Bindings.ofAssignment = .ok r.assigned

namespace Request

/-- What is given one by one comes over what the file lists, and the last of it counts. -/
def values (r : Request) : Bindings := r.listed.insertAll r.assigned

def prompted (r : Request) (e : Expression) (lines : List String) : Bindings :=
  (e.missing r.values).zip (answers lines)

def verdict (r : Request) (e : Expression) (lines : List String) : Verdict :=
  if (answers lines).length < (e.missing r.values).length then .abandoned
  else .ofResult (solve r.settings r.source (r.values ++ r.prompted e lines))

def notes (r : Request) (e : Expression) (lines : List String) : String :=
  (readNoted r.verbose r.settings r.source).1.err ++
    (bindAllNoted r.verbose e (r.values ++ r.prompted e lines)).1.err

end Request

theorem assignAll_eq_ok (h : texts.mapM Bindings.ofAssignment = .ok assigned) :
    assignAll found texts = .ok (found.insertAll assigned) := by
  induction texts generalizing found assigned with
  | nil =>
    cases h
    rfl
  | cons text texts ih =>
    rw [List.mapM_cons] at h
    obtain ⟨⟨name, x⟩, htext, h⟩ := bind_eq_ok.1 h
    obtain ⟨rest, hrest, h⟩ := bind_eq_ok.1 h
    cases h
    simp only [assignAll, htext, ih hrest]
    rfl

theorem collect_eq (L : Libraries) (w : Surroundings) (path? : Option String)
    (texts : List String) :
    collect L w path? texts = collect L w path? [] >>= (assignAll · texts) := by
  cases path? with
  | none => rfl
  | some path =>
    simp only [collect, assignAll, bind_assoc, ok_bind]

theorem nodup_keys_of_collect (h : collect L w path? [] = .ok found) :
    (found.map Prod.fst).Nodup := by
  cases path? with
  | none =>
    cases h
    exact List.nodup_nil
  | some path =>
    obtain ⟨content, -, h⟩ := bind_eq_ok.1 h
    obtain ⟨values, hvalues, h⟩ := bind_eq_ok.1 h
    cases h
    exact Bindings.nodup_keys_of_ofDocument hvalues

theorem Requests.nodup_keys (h : Requests L w args r) : (r.listed.map Prod.fst).Nodup := by
  obtain ⟨_, _, -, -, -, -, -, -, -, hlisted, -⟩ := h
  exact nodup_keys_of_collect hlisted

theorem Requests.turn_eq (h : Requests L w args r)
    (he : Expression.read r.settings r.source = .ok e) (lines : List String) :
    turn L w args lines =
      ((askAll L.kit r.verbose (e.bindAll r.values) (e.missing r.values) lines).after
        (bindAllNoted r.verbose e r.values).1).after
          (readNoted r.verbose r.settings r.source).1 := by
  obtain ⟨given, own, hgiven, hverbose, hcommand, hsettings, hown, hsource, hasks, hlisted,
    hassigned⟩ := h
  have hcollect : collect L w own.bindings? own.assignments = .ok r.values := by
    rw [collect_eq, hlisted, ok_bind, assignAll_eq_ok hassigned]
    rfl
  have hread := readNoted_snd r.verbose r.settings r.source
  rw [he] at hread
  simp only [turn, hgiven, hsettings, hcommand, commandTurn, hown, withEquation, hverbose, hsource,
    hread, solveTurn, hcollect, hasks, if_true, bindAllNoted_snd, Expression.unresolved_bindAll]

theorem keys_zip_sublist (names : List String) (xs : List Float) :
    ((names.zip xs).map Prod.fst).Sublist names := by
  induction names generalizing xs with
  | nil => exact List.Sublist.refl []
  | cons name names ih =>
    cases xs with
    | nil => exact List.nil_sublist _
    | cons x xs => exact (ih xs).cons_cons name

namespace Request

theorem nodup_keys_append (h : (r.listed.map Prod.fst).Nodup) (e : Expression)
    (lines : List String) : ((r.values ++ r.prompted e lines).map Prod.fst).Nodup := by
  have hprompted := keys_zip_sublist (e.missing r.values) (answers lines)
  have hmissing := (Expression.pairwise_missing e r.values).nodup
  rw [List.map_append]
  refine List.nodup_append.2 ⟨Bindings.nodup_keys_insertAll h, hprompted.nodup hmissing, ?_⟩
  intro name hname other hother heq
  obtain ⟨-, hnone⟩ := Expression.mem_missing.1 (hprompted.subset hother)
  rw [← heq] at hnone
  exact lookup_ne_none.2 hname hnone

theorem solve_eq (h : (r.listed.map Prod.fst).Nodup)
    (he : Expression.read r.settings r.source = .ok e) :
    solve r.settings r.source (r.values ++ r.prompted e lines) =
      ((e.bindAll r.values).bindAll (r.prompted e lines)).evaluate := by
  rw [solve, he, ok_bind, Bindings.ofList_eq_self (r.nodup_keys_append h e lines),
    Expression.bindAll_append]

theorem verdict_eq (h : (r.listed.map Prod.fst).Nodup)
    (he : Expression.read r.settings r.source = .ok e) :
    r.verdict e lines = verdictOf (e.bindAll r.values) (e.missing r.values) lines := by
  rw [verdict, solve_eq h he]
  rfl

theorem coveredBy_of_answers (h : (e.missing r.values).length ≤ (answers lines).length) :
    e.CoveredBy (r.values ++ r.prompted e lines) := by
  intro name hname
  rw [List.map_append, List.mem_append]
  by_cases hgiven : name ∈ r.values.map Prod.fst
  · exact .inl hgiven
  · refine .inr ?_
    rw [prompted, List.map_fst_zip h, Expression.missing, List.mem_filter]
    exact ⟨hname, decide_eq_true hgiven⟩

theorem kind_ne_unset_of_verdict {f : Fault} (h : (r.listed.map Prod.fst).Nodup)
    (he : Expression.read r.settings r.source = .ok e) (hf : r.verdict e lines = .failed f) :
    f.kind ≠ .unsetVariable := by
  unfold verdict at hf
  split at hf
  · cases hf
  · next hall =>
    rw [solve_eq h he, ← Expression.bindAll_append] at hf
    have hcovered := coveredBy_of_answers (Nat.le_of_not_lt hall)
    cases hsolved : (e.bindAll (r.values ++ r.prompted e lines)).evaluate with
    | ok x =>
      rw [hsolved] at hf
      cases hf
    | error fault =>
      rw [hsolved] at hf
      cases hf
      exact hcovered.kind_ne_unset hsolved

theorem notes_quiet (h : r.verbose = false) : r.notes e lines = "" := by
  rw [notes, h, readNoted_quiet, bindAllNoted_quiet]
  rfl

end Request

theorem Requests.run_eq (h : Requests L w args r) (hkit : L.kit.Lawful)
    (he : Expression.read r.settings r.source = .ok e) (input : String) :
    let lines := (Text.lines input.toList).map String.ofList
    run L w args input =
      ⟨⟨asked L.kit (e.missing r.values) lines ++ (r.verdict e lines).out,
        r.notes e lines ++ (r.verdict e lines).err L.kit⟩, (r.verdict e lines).code⟩ := by
  intro lines
  change (turn L w args lines).outcome L.kit = _
  rw [h.turn_eq he, askAll_eq hkit, outcome_after, outcome_after, outcome_after, outcome_after,
    Verdict.outcome_turn hkit, Request.verdict_eq h.nodup_keys he, Request.notes,
    bindAllNoted_append, Request.prompted]
  simp only [Outcome.behind]
  congr 1
  ext1 <;> simp [out_readNoted, out_bindAllNoted, String.append_assoc]

/-- A request is answered as `solve` answers for the numbers that are given and, for the names that
are missing, the numbers among the lines of the input in their order; without enough of them it is
given up. Numbers for different names may be given in any order. -/
theorem run_request (hkit : L.kit.Lawful) (hr : Requests L w args r)
    (he : Expression.read r.settings r.source = .ok e) (input : String) :
    let lines := (Text.lines input.toList).map String.ofList
    let verdict := r.verdict e lines
    (∀ name, r.values.lookup name =
      (r.assigned.reverse.lookup name).or (r.listed.lookup name)) ∧
    run L w args input = ⟨⟨asked L.kit (e.missing r.values) lines ++ verdict.out,
      r.notes e lines ++ verdict.err L.kit⟩, verdict.code⟩ ∧
    (r.verbose = false → r.notes e lines = "") ∧
    (∀ f, verdict = .failed f → f.kind ≠ .unsetVariable) ∧
    ∀ args' assigned', Requests L w args' { r with assigned := assigned' } →
      Bindings.SameByName r.assigned assigned' →
      (run L w args' input).transcript.out = (run L w args input).transcript.out ∧
      (run L w args' input).code = (run L w args input).code ∧
      (r.verbose = false → run L w args' input = run L w args input) := by
  intro lines verdict
  have hrun := hr.run_eq hkit he input
  refine ⟨Bindings.lookup_insertAll r.listed r.assigned, hrun, Request.notes_quiet,
    fun f => Request.kind_ne_unset_of_verdict hr.nodup_keys he, ?_⟩
  intro args' assigned' hr' hsame
  let r' : Request := { r with assigned := assigned' }
  have hrun' := hr'.run_eq hkit he input
  have hlookup : ∀ name, r'.values.lookup name = r.values.lookup name := by
    intro name
    rw [Request.values, Request.values, Bindings.lookup_insertAll, Bindings.lookup_insertAll,
      hsame.lookup_reverse name]
  have hmissing : e.missing r'.values = e.missing r.values := Expression.missing_congr hlookup
  have hverdict : r'.verdict e lines = verdict := by
    rw [Request.verdict_eq hr'.nodup_keys he, Expression.bindAll_congr hlookup, hmissing,
      ← Request.verdict_eq hr.nodup_keys he]
  have hasked : asked L.kit (e.missing r'.values) lines ++ (r'.verdict e lines).out =
      asked L.kit (e.missing r.values) lines ++ verdict.out := by
    rw [hmissing, hverdict]
  refine ⟨?_, ?_, fun hquiet => ?_⟩
  · rw [hrun, hrun', hasked]
  · rw [hrun, hrun', hverdict]
  · have hnotes : r'.notes e lines = "" := Request.notes_quiet hquiet
    rw [hrun, hrun', hasked, hnotes, Request.notes_quiet hquiet, hverdict]

section
open Plain

theorem readArguments_given {spec : Spec} (name : String) {rest others : List String}
    {given : List Setting} (hname : name ≠ "--") (hoption : isOption name = true)
    (hword : word spec name = .ok (.needsValue name)) (values : List String)
    (hrest : readArguments spec true rest = .ok (given, others)) :
    readArguments spec true (values.flatMap ([name, ·]) ++ rest) =
      .ok (values.map (name, ·) ++ given, others) := by
  induction values with
  | nil => exact hrest
  | cons value values ih =>
    simp only [List.flatMap_cons, List.cons_append, List.nil_append, readArguments, hname, hoption,
      hword, ih, if_true, if_false]
    rfl

theorem lastValue?_given (path? : Option String) (texts : List String) :
    lastValue? "--vars" (path?.toList.map ("--vars", ·) ++ texts.map ("--set", ·)) = path? := by
  have hnone : (texts.map ("--set", ·)).reverse.lookup "--vars" = none := by
    simp [List.lookup_eq_none_iff]
  rw [lastValue?, List.reverse_append, List.lookup_append, hnone, Option.none_or]
  cases path? <;> rfl

theorem pathOf?_given {isFile : String → Bool} {texts : List String}
    (hfile : ∀ path ∈ path?, isFile (plainPath path)) :
    pathOf? isFile "--vars" (path?.toList.map ("--vars", ·) ++ texts.map ("--set", ·)) =
      .ok (path?.map plainPath) := by
  rw [pathOf?, lastValue?_given]
  cases path? with
  | none => rfl
  | some path => exact if_pos (hfile path rfl)

/-- Every equation can be asked for, with any file and any numbers: behind two dashes nothing is
taken for an option. -/
theorem requests_of_texts {settings : Settings} (path? : Option String) (texts : List String)
    (source : String) (hsettings : settingsOf libraries w none = .ok settings)
    (hfile : ∀ path ∈ path?, w.holds (plainPath path))
    (hlisted : collect libraries w (path?.map plainPath) [] = .ok found)
    (htexts : texts.mapM Bindings.ofAssignment = .ok assigned) :
    Requests libraries w ("solve" :: (path?.toList.flatMap (["--vars", ·]) ++
      (texts.flatMap (["--set", ·]) ++ ["--", source])))
      ⟨false, settings, source, found, assigned⟩ := by
  have hsource : readArguments solveSpec true ["--", source] = .ok ([], [source]) := rfl
  have hsets := readArguments_given "--set" (by decide) rfl rfl texts hsource
  have hwords := readArguments_given "--vars" (by decide) rfl rfl path?.toList hsets
  rw [List.append_nil] at hwords
  have hgiven : allValues "--set" (path?.toList.map ("--vars", ·) ++ texts.map ("--set", ·)) =
      texts := by
    simp [allValues, List.filter_map, Function.comp_def]
  have hasks : isGiven "--no-input" (path?.toList.map ("--vars", ·) ++ texts.map ("--set", ·)) =
      false := by
    simp [isGiven]
  refine ⟨⟨false, none, .solve, _⟩, ⟨source, texts, path?.map plainPath, true⟩, rfl, rfl, rfl,
    hsettings, ?_, rfl, rfl, hlisted, htexts⟩
  change solveArguments w.holds _ = _
  simp only [solveArguments, hwords, Except.mapError, ok_bind, pathOf?_given hfile, onlyEquation,
    hgiven, hasks]
  rfl

end

set_option maxRecDepth 8000 in
/-- Of the two numbers for `y` the one that is not from the file counts, and `z` is asked for until
a line is a number. -/
theorem run_request_with_one_answer :
    let w : Surroundings :=
      ⟨none, none, fun path => if path = "known.yaml" then some "x: 1\ny: 2\n" else none⟩
    let args := ["solve", "--vars", "known.yaml", "--set", "y=3", "--", "x+y*z"]
    let r : Request := ⟨false, .standard, "x+y*z", [("x", 1), ("y", 2)], [("y", 3)]⟩
    let e : Expression := ⟨.atom (.unknown "x") (.atom (.binary .add) (.atom (.unknown "y")
      (.atom (.binary .multiply) (.atom (.unknown "z") .nil)))), .standard⟩
    Plain.libraries.kit.Lawful ∧ Requests Plain.libraries w args r ∧
      Expression.read r.settings r.source = .ok e ∧ run Plain.libraries w args "\n5\n" =
        ⟨⟨"Enter a value for z: Enter a value for z: Solution: 16.0\n", ""⟩, 0⟩ := by
  intro w args r e
  have hload : Plain.reader.load "x: 1\ny: 2\n" = .ok (Plain.Tree.mapping
      [(.text "x", .scalar (.int 1)), (.text "y", .scalar (.int 2))]) := by
    change Plain.load _ = _
    cbv
  have hvalues : Bindings.ofDocument Plain.reader Plain.coercion "known.yaml" "x: 1\ny: 2\n" =
      .ok r.listed := by
    rw [Bindings.ofDocument, hload]
    rfl
  have hlisted : collect Plain.libraries w (some "known.yaml") [] = .ok r.listed :=
    congrArg (· >>= (assignAll · [])) hvalues
  have hfile : ∀ path ∈ some "known.yaml", w.holds (Plain.plainPath path) = true := by
    rintro _ ⟨⟩
    rfl
  have hrequests : Requests Plain.libraries w args r :=
    requests_of_texts (some "known.yaml") ["y=3"] "x+y*z" rfl hfile hlisted rfl
  have hformula : Formula.read Settings.standard.limit "x+y*z" = .ok e.formula := by
    cbv
  have hread : Expression.read .standard "x+y*z" = .ok e := by
    rw [Expression.read, hformula]
    rfl
  obtain ⟨-, hrun, -⟩ := run_request Plain.kit_lawful hrequests hread "\n5\n"
  refine ⟨Plain.kit_lawful, hrequests, hread, hrun.trans ?_⟩
  have hsolve : solve r.settings r.source (r.values ++ r.prompted e ["", "5"]) =
      .ok (Binary.add.apply 1 (Binary.multiply.apply 3 5)) := by
    rw [solve, hread]
    rfl
  have hverdict : r.verdict e ["", "5"] =
      .solved (Binary.add.apply 1 (Binary.multiply.apply 3 5)) := by
    rw [Request.verdict, hsolve]
    rfl
  have hasked : asked Plain.libraries.kit (e.missing r.values) ["", "5"] =
      "Enter a value for z: Enter a value for z: " := by
    decide +kernel
  have hlines : (Text.lines "\n5\n".toList).map String.ofList = ["", "5"] := rfl
  have hout : (Verdict.solved (Binary.add.apply 1 (Binary.multiply.apply 3 5))).out =
      "Solution: 16.0\n" := by
    decide +kernel
  rw [hlines, hverdict, hasked, hout, Request.notes_quiet rfl]
  rfl

end CommandLine
end Reckon
