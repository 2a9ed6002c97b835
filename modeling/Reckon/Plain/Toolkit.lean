import Reckon.CommandLine.Toolkit
import Reckon.Plain.Coercion
import Reckon.Plain.Options

/-! A toolkit for the command line. A number is asked for until a line is one; whoever gives a line
that is none is told so, unless it is empty. -/
namespace Reckon.Plain
open Text CommandLine

def refuse (f : UsageFault) : Turn := (.empty, .refused f.message)

def programSpec : Spec := ⟨["-v", "--verbose"], ["--config"]⟩

def solveSpec : Spec := ⟨["--no-input"], ["--set", "--vars"]⟩

def commandOf? : String → Option Command
  | "solve" => some .solve
  | "vars" => some .vars
  | "tokens" => some .tokens
  | _ => none

variable (isFile : String → Bool)

def pathOf? (option : String) (given : List Setting) : Except Turn (Option String) :=
  match lastValue? option given with
  | none => .ok none
  | some path =>
    if isFile (plainPath path) then .ok (some (plainPath path))
    else .error (refuse (.noSuchFile option path))

def opening (args : List String) : Except Turn Opening := do
  let (given, rest) ← (readArguments programSpec false args).mapError refuse
  let settings? ← pathOf? isFile "--config" given
  match rest with
  | [] => .error (refuse .noCommand)
  | name :: arguments =>
    match commandOf? name with
    | none => .error (refuse (.noSuchCommand name))
    | some command =>
      .ok ⟨isGiven "-v" given || isGiven "--verbose" given, settings?, command, arguments⟩

def onlyEquation : List String → Except Turn String
  | [] => .error (refuse .noEquation)
  | [source] => .ok source
  | _ :: extra => .error (refuse (.extraArguments extra))

def solveArguments (args : List String) : Except Turn SolveArguments := do
  let (given, words) ← (readArguments solveSpec true args).mapError refuse
  let bindings? ← pathOf? isFile "--vars" given
  return ⟨← onlyEquation words, allValues "--set" given, bindings?, !isGiven "--no-input" given⟩

def equation (args : List String) : Except Turn String := do
  let (_, words) ← (readArguments ⟨[], []⟩ true args).mapError refuse
  onlyEquation words

def complaint (line : String) : String :=
  if line = "" then "" else s!"Error: {quoted line} is not a valid float.\n"

def ask (label : String) (number? : String → Option Float) :
    List String → String × Option (Float × List String)
  | [] => (label ++ ": ", none)
  | line :: lines =>
    match if line = "" then none else number? line with
    | some x => (label ++ ": ", some (x, lines))
    | none =>
      let (said, answer) := ask label number? lines
      (label ++ ": " ++ complaint line ++ said, answer)

/-- An exception is shown by whatever runs the program. -/
def leave : Ending → String × Nat
  | .done => ("", 0)
  | .exit code => ("", code)
  | .refused message => (s!"Error: {message}\n", 2)
  | .aborted => ("Aborted!\n", 1)
  | .crashed _ => ("", 1)

def kit : Toolkit := ⟨opening, solveArguments, equation, ask, leave⟩

def libraries : Libraries := ⟨reader, coercion, kit⟩

section
variable {label line : String} {number? : String → Option Float} {lines skipped rest : List String}
  {x : Float}

theorem ask_again (h : line = "" ∨ number? line = none) :
    (ask label number? (line :: lines)).2 = (ask label number? lines).2 := by
  have hnone : (if line = "" then none else number? line) = none := by
    split
    · rfl
    · next hline => exact h.resolve_left hline
  rw [ask, hnone]

theorem ask_answered (hskipped : ∀ l ∈ skipped, l = "" ∨ number? l = none) (hline : line ≠ "")
    (hx : number? line = some x) :
    (ask label number? (skipped ++ line :: rest)).2 = some (x, rest) := by
  induction skipped with
  | nil => simp only [List.nil_append, ask, if_neg hline, hx]
  | cons l skipped ih =>
    obtain ⟨hl, hmore⟩ := List.forall_mem_cons.1 hskipped
    rw [List.cons_append, ask_again hl, ih hmore]

theorem ask_unanswered (h : ∀ l ∈ lines, l = "" ∨ number? l = none) :
    (ask label number? lines).2 = none := by
  induction lines with
  | nil => rfl
  | cons l lines ih =>
    obtain ⟨hl, hmore⟩ := List.forall_mem_cons.1 h
    rw [ask_again hl, ih hmore]

end

theorem kit_lawful : kit.Lawful where
  answered _ _ _ _ _ _ := ask_answered
  unanswered _ _ _ := ask_unanswered
  leave_done := rfl
  leave_exit _ := rfl
  leave_aborted := rfl

end Reckon.Plain
