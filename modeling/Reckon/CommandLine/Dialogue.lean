import Reckon.Expression
import Reckon.CommandLine.Toolkit
import Reckon.Text.Split

/-! The commands. They say what they have to say on two channels, and where they still need the
value of an unknown they ask for it. -/
namespace Reckon.CommandLine
open Text Numeral

def Turn.after (t : Turn) (said : Transcript) : Turn := (said ++ t.1, t.2)

def fail (f : Fault) : Turn := (.warn s!"Error: {f.message}\n", .exit 1)

def Ending.ofFailure {φ : Type} (message : φ → String) : Failure φ → Ending
  | .fault f => .refused (message f)
  | .crash c => .crashed c

def note (verbose : Bool) (text : String) : Transcript := if verbose then .warn text else .empty

def readNote (source : String) (f : Formula) : String :=
  s!"DEBUG equation_solver.parser: Parsed {quoted source} into {f.length} top-level nodes\n"

def bindNote (name : String) (x : Float) (count : Nat) : String :=
  s!"DEBUG equation_solver.expression: Bound {name} = {exactText x} in {count} place(s)\n"

def bindNoted (verbose : Bool) (e : Expression) (name : String) (x : Float) :
    Transcript × Expression :=
  (note verbose (bindNote name x (e.formula.substitute name (.number x)).2), e.bind name x)

def bindAllNoted (verbose : Bool) (e : Expression) : Bindings → Transcript × Expression
  | [] => (.empty, e)
  | (name, x) :: values =>
    let (first, e) := bindNoted verbose e name x
    let (rest, e) := bindAllNoted verbose e values
    (first ++ rest, e)

theorem bindAllNoted_snd (verbose : Bool) (e : Expression) (values : Bindings) :
    (bindAllNoted verbose e values).2 = e.bindAll values := by
  induction values generalizing e with
  | nil => rfl
  | cons value values ih => exact ih _

/-- A formula that reads well is noted even if it turns out not to be well-formed. -/
def readNoted (verbose : Bool) (settings : Settings) (source : String) :
    Transcript × Except Fault Expression :=
  match Formula.read settings.limit source with
  | .ok f => (note verbose (readNote source f), Expression.ofFormula settings f)
  | .error f => (.empty, .error f)

theorem readNoted_snd (verbose : Bool) (settings : Settings) (source : String) :
    (readNoted verbose settings source).2 = Expression.read settings source := by
  unfold readNoted Expression.read
  cases Formula.read settings.limit source <;> rfl

def conclude (e : Expression) : Turn :=
  match e.evaluate with
  | .ok x => (.say s!"Solution: {exactText x}\n", .done)
  | .error f => fail f

def label (name : String) : String := s!"Enter a value for {name}"

def askAll (kit : Toolkit) (verbose : Bool) (e : Expression) : List String → List String → Turn
  | [], _ => conclude e
  | name :: later, lines =>
    match kit.ask (label name) Numeral.read? lines with
    | (said, none) => (.say said, .aborted)
    | (said, some (x, rest)) =>
      let (noted, e) := bindNoted verbose e name x
      ((askAll kit verbose e later rest).after noted).after (.say said)

structure Surroundings where
  depth? : Option String
  validates? : Option String
  file? : String → Option String

def Surroundings.holds (w : Surroundings) (path : String) : Bool := (w.file? path).isSome

def Surroundings.open {φ : Type} (w : Surroundings) (path : String) :
    Except (Failure φ) String :=
  match w.file? path with
  | some content => .ok content
  | none => .error (.crash (.noFile path))

def assignAll (values : Bindings) : List String → Except (Failure BindingsFault) Bindings
  | [] => .ok values
  | text :: texts =>
    match Bindings.ofAssignment text with
    | .ok (name, x) => assignAll (.insert name x values) texts
    | .error f => .error (.fault f)

variable (L : Libraries) (w : Surroundings)

/-- Values from a file, and over them those given one by one. -/
def collect (path? : Option String) (texts : List String) :
    Except (Failure BindingsFault) Bindings := do
  let values ← match path? with
    | some path => do Bindings.ofDocument L.reader L.coercion path (← w.open path)
    | none => .ok []
  assignAll values texts

def solveTurn (verbose : Bool) (e : Expression) (arguments : SolveArguments)
    (lines : List String) : Turn :=
  match collect L w arguments.bindings? arguments.assignments with
  | .error f => (.empty, .ofFailure BindingsFault.message f)
  | .ok values =>
    let (noted, e) := bindAllNoted verbose e values
    (if arguments.asks then askAll L.kit verbose e e.unresolved lines else conclude e).after noted

def withEquation (verbose : Bool) (settings : Settings) (source : String)
    (turn : Expression → Turn) : Turn :=
  let (noted, read) := readNoted verbose settings source
  (match read with
    | .ok e => turn e
    | .error f => fail f).after noted

def commandTurn (verbose : Bool) (settings : Settings) (command : Command)
    (arguments lines : List String) : Turn :=
  match command with
  | .solve =>
    match L.kit.solveArguments w.holds arguments with
    | .error turn => turn
    | .ok given =>
      withEquation verbose settings given.equation fun e => solveTurn L w verbose e given lines
  | .vars =>
    match L.kit.equation arguments with
    | .error turn => turn
    | .ok source => withEquation verbose settings source fun e => (.sayLines e.unresolved, .done)
  | .tokens =>
    match L.kit.equation arguments with
    | .error turn => turn
    | .ok source =>
      withEquation verbose settings source fun e => (.sayLines e.formula.outline, .done)

def settingsOf : Option String → Except (Failure SettingsFault) Settings
  | some path => do Settings.ofDocument L.reader path (← w.open path)
  | none => (Settings.ofEnvironment w.depth? w.validates?).mapError .fault

def turn (args lines : List String) : Turn :=
  match L.kit.opening w.holds args with
  | .error turn => turn
  | .ok given =>
    match settingsOf L w given.settings? with
    | .error f => (.empty, .ofFailure SettingsFault.message f)
    | .ok settings => commandTurn L w given.verbose settings given.command given.arguments lines

structure Outcome where
  transcript : Transcript
  code : Nat

def Turn.outcome (kit : Toolkit) (t : Turn) : Outcome :=
  let (last, code) := kit.leave t.2
  ⟨t.1 ++ .warn last, code⟩

def run (args : List String) (input : String) : Outcome :=
  (turn L w args ((Text.lines input.toList).map String.ofList)).outcome L.kit

end Reckon.CommandLine
