import Reckon.CommandLine.Dialogue

/-! What is said where unknowns are asked for one by one. The toolkit asks until a line reads as a
number, and that number is bound to the name; so the numbers among the lines are, in their order,
those of the names. The equation is solved behind the last of them, and given up if the input ends
before. -/
namespace Reckon.CommandLine

attribute [ext] Transcript

namespace Transcript

@[simp] theorem out_append (s t : Transcript) : (s ++ t).out = s.out ++ t.out := rfl

@[simp] theorem err_append (s t : Transcript) : (s ++ t).err = s.err ++ t.err := rfl

@[simp] theorem out_empty : Transcript.empty.out = "" := rfl

@[simp] theorem err_empty : Transcript.empty.err = "" := rfl

@[simp] theorem out_say (text : String) : (say text).out = text := rfl

@[simp] theorem err_say (text : String) : (say text).err = "" := rfl

@[simp] theorem out_warn (text : String) : (warn text).out = "" := rfl

@[simp] theorem err_warn (text : String) : (warn text).err = text := rfl

theorem append_assoc (s t u : Transcript) : s ++ t ++ u = s ++ (t ++ u) := by
  ext1 <;> simp [String.append_assoc]

theorem empty_append (s : Transcript) : empty ++ s = s := by
  ext1 <;> simp

theorem append_empty (s : Transcript) : s ++ empty = s := by
  ext1 <;> simp

theorem append_warn (s : Transcript) (text : String) : s ++ warn text = ⟨s.out, s.err ++ text⟩ := by
  ext1 <;> simp

end Transcript

inductive Verdict where
  | solved (x : Float)
  | failed (f : Fault)
  | abandoned

namespace Verdict

def ofResult : Except Fault Float → Verdict
  | .ok x => solved x
  | .error f => failed f

def turn : Verdict → Turn
  | solved x => (.say s!"Solution: {Numeral.exactText x}\n", .done)
  | failed f => fail f
  | abandoned => (.empty, .aborted)

def out : Verdict → String
  | solved x => s!"Solution: {Numeral.exactText x}\n"
  | _ => ""

def err (kit : Toolkit) : Verdict → String
  | solved _ => ""
  | failed f => s!"Error: {f.message}\n"
  | abandoned => (kit.leave .aborted).1

def code : Verdict → Nat
  | solved _ => 0
  | _ => 1

end Verdict

def answers (lines : List String) : List Float := lines.filterMap Numeral.read?

/-- All that the toolkit says where it asks for the names, up to the end of the input. -/
def asked (kit : Toolkit) : List String → List String → String
  | [], _ => ""
  | name :: later, lines =>
    let (said, answer) := kit.ask (label name) Numeral.read? lines
    said ++ match answer with
      | none => ""
      | some (_, rest) => asked kit later rest

def verdictOf (e : Expression) (names lines : List String) : Verdict :=
  if (answers lines).length < names.length then .abandoned
  else .ofResult (e.bindAll (names.zip (answers lines))).evaluate

variable {kit : Toolkit} {name : String} {names lines : List String} {verbose : Bool}
  {said : Transcript} {t : Turn} {e : Expression} {x : Float} {xs : List Float}

theorem Turn.after_after (t : Turn) (first second : Transcript) :
    (t.after second).after first = t.after (first ++ second) := by
  simp only [Turn.after, Transcript.append_assoc]

/-! Bindings are noted on one channel, and only there. -/

theorem out_note (verbose : Bool) (text : String) : (note verbose text).out = "" := by
  cases verbose <;> rfl

theorem bindAllNoted_cons (verbose : Bool) (e : Expression) (name : String) (x : Float)
    (values : Bindings) : (bindAllNoted verbose e ((name, x) :: values)).1 =
      (bindNoted verbose e name x).1 ++ (bindAllNoted verbose (e.bind name x) values).1 := rfl

theorem bindAllNoted_append (verbose : Bool) (e : Expression) (u v : Bindings) :
    (bindAllNoted verbose e (u ++ v)).1 =
      (bindAllNoted verbose e u).1 ++ (bindAllNoted verbose (e.bindAll u) v).1 := by
  induction u generalizing e with
  | nil => exact (Transcript.empty_append _).symm
  | cons value u ih =>
    obtain ⟨name, x⟩ := value
    rw [List.cons_append, bindAllNoted_cons, bindAllNoted_cons, ih, Transcript.append_assoc]
    rfl

theorem out_bindNoted (verbose : Bool) (e : Expression) (name : String) (x : Float) :
    (bindNoted verbose e name x).1.out = "" := out_note verbose _

theorem out_bindAllNoted (verbose : Bool) (e : Expression) (values : Bindings) :
    (bindAllNoted verbose e values).1.out = "" := by
  induction values generalizing e with
  | nil => rfl
  | cons value values ih =>
    rw [bindAllNoted_cons, Transcript.out_append, ih, out_bindNoted, String.append_empty]

theorem bindAllNoted_quiet (e : Expression) (values : Bindings) :
    (bindAllNoted false e values).1 = .empty := by
  induction values generalizing e with
  | nil => rfl
  | cons value values ih =>
    rw [bindAllNoted_cons, ih, Transcript.append_empty]
    rfl

theorem out_readNoted (verbose : Bool) (settings : Settings) (source : String) :
    (readNoted verbose settings source).1.out = "" := by
  unfold readNoted
  split
  · exact out_note verbose _
  · rfl

theorem readNoted_quiet (settings : Settings) (source : String) :
    (readNoted false settings source).1 = .empty := by
  unfold readNoted
  split <;> rfl

/-! One name takes the lines up to the first number, and the names behind it take the rest. -/

theorem read?_empty : Numeral.read? "" = none := by decide

theorem Toolkit.Lawful.ask_of_answers_nil (hkit : kit.Lawful) (h : answers lines = []) :
    (kit.ask (label name) Numeral.read? lines).2 = none :=
  hkit.unanswered _ _ _ fun l hl => .inr (List.filterMap_eq_nil_iff.1 h l hl)

theorem Toolkit.Lawful.ask_of_answers_cons (hkit : kit.Lawful) (h : answers lines = x :: xs) :
    ∃ rest, (kit.ask (label name) Numeral.read? lines).2 = some (x, rest) ∧ answers rest = xs := by
  obtain ⟨skipped, line, rest, rfl, hskipped, hline, hrest⟩ := List.filterMap_eq_cons_iff.1 h
  refine ⟨rest, hkit.answered _ _ _ _ _ _ (fun l hl => .inr (hskipped l hl)) ?_ hline, hrest⟩
  rintro rfl
  cases read?_empty.symm.trans hline

theorem askAll_cons (kit : Toolkit) (verbose : Bool) (e : Expression) (name : String)
    (later lines : List String) :
    askAll kit verbose e (name :: later) lines =
      match kit.ask (label name) Numeral.read? lines with
      | (said, none) => (.say said, .aborted)
      | (said, some (x, rest)) =>
        ((askAll kit verbose (e.bind name x) later rest).after
          (bindNoted verbose e name x).1).after (.say said) := rfl

theorem verdictOf_nil : verdictOf e [] lines = .ofResult e.evaluate := by
  simp only [verdictOf, List.length_nil, Nat.not_lt_zero, if_false, List.zip_nil_left]
  rfl

theorem verdictOf_cons {rest : List String} (h : answers lines = x :: xs)
    (hrest : answers rest = xs) :
    verdictOf e (name :: names) lines = verdictOf (e.bind name x) names rest := by
  simp only [verdictOf, h, hrest, List.length_cons, Nat.add_lt_add_iff_right, List.zip_cons_cons]
  rfl

theorem conclude_eq (e : Expression) : conclude e = (Verdict.ofResult e.evaluate).turn := by
  unfold conclude
  cases e.evaluate <;> rfl

/-- The numbers among the lines are bound to the names in their order, and with them it ends. -/
theorem askAll_eq (hkit : kit.Lawful) (verbose : Bool) (e : Expression)
    (names lines : List String) :
    askAll kit verbose e names lines =
      ((verdictOf e names lines).turn.after
        (bindAllNoted verbose e (names.zip (answers lines))).1).after
          (.say (asked kit names lines)) := by
  induction names generalizing e lines with
  | nil =>
    rw [verdictOf_nil, ← conclude_eq]
    simp only [askAll, asked, List.zip_nil_left, bindAllNoted, Turn.after_after,
      Transcript.append_empty]
    exact congrArg (·, (conclude e).2) (Transcript.empty_append _).symm
  | cons name names ih =>
    rcases hask : kit.ask (label name) Numeral.read? lines with ⟨text, answer⟩
    cases hanswers : answers lines with
    | nil =>
      have hnone : (kit.ask (label name) Numeral.read? lines).2 = none :=
        hkit.ask_of_answers_nil hanswers
      obtain rfl : answer = none := by rwa [hask] at hnone
      have hopen : verdictOf e (name :: names) lines = .abandoned := by
        rw [verdictOf, hanswers]
        rfl
      rw [askAll_cons, hask, hopen, List.zip_nil_right, asked, hask]
      simp only [Verdict.turn, bindAllNoted, Turn.after, Transcript.append_empty,
        String.append_empty]
    | cons x xs =>
      obtain ⟨rest, hsome, hrest⟩ : ∃ rest, (kit.ask (label name) Numeral.read? lines).2 =
          some (x, rest) ∧ answers rest = xs := hkit.ask_of_answers_cons hanswers
      obtain rfl : answer = some (x, rest) := by rwa [hask] at hsome
      rw [askAll_cons, hask, verdictOf_cons hanswers hrest, List.zip_cons_cons, asked, hask,
        bindAllNoted_cons]
      dsimp only
      rw [ih, hrest]
      simp only [Turn.after_after]
      -- The questions and the notes alternate, but each have a channel of their own.
      congr 1
      ext1 <;> simp [out_bindNoted, String.append_assoc]

/-! What is said when the program leaves. -/

def Outcome.behind (said : Transcript) (o : Outcome) : Outcome := ⟨said ++ o.transcript, o.code⟩

theorem outcome_after : (t.after said).outcome kit = (t.outcome kit).behind said := by
  simp only [Turn.outcome, Turn.after, Outcome.behind, Transcript.append_assoc]

theorem Verdict.outcome_turn (hkit : kit.Lawful) (v : Verdict) :
    v.turn.outcome kit = ⟨⟨v.out, v.err kit⟩, v.code⟩ := by
  cases v with
  | solved x =>
    simp only [turn, Turn.outcome, hkit.leave_done, Transcript.append_warn]
    rfl
  | failed f =>
    simp only [turn, fail, Turn.outcome, hkit.leave_exit, Transcript.append_warn]
    simp [Transcript.warn, out, err, code]
  | abandoned =>
    simp only [turn, Turn.outcome, hkit.leave_aborted, Transcript.append_warn]
    simp [Transcript.empty, out, err, code]

end Reckon.CommandLine
