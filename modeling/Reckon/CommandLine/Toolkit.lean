import Reckon.Bindings.Sources
import Reckon.Settings.Sources

/-! What the program leaves to others: documents to a reader, their values to rules of coercion, and
the command line to a toolkit. The toolkit reads the arguments, asks for numbers, and gives the code
that the program ends with. -/
namespace Reckon.CommandLine

structure Transcript where
  out : String
  err : String

namespace Transcript

def empty : Transcript := ⟨"", ""⟩

def append (s t : Transcript) : Transcript := ⟨s.out ++ t.out, s.err ++ t.err⟩

instance : Append Transcript := ⟨append⟩

def say (text : String) : Transcript := ⟨text, ""⟩

def warn (text : String) : Transcript := ⟨"", text⟩

def sayLines (lines : List String) : Transcript := say (String.join (lines.map (· ++ "\n")))

end Transcript

inductive Ending where
  | done
  | exit (code : Nat)
  | refused (message : String)
  | aborted
  | crashed (c : Crash)

abbrev Turn := Transcript × Ending

inductive Command where
  | solve | vars | tokens
  deriving DecidableEq

structure Opening where
  verbose : Bool
  settings? : Option String
  command : Command
  arguments : List String

structure SolveArguments where
  equation : String
  assignments : List String
  bindings? : Option String
  asks : Bool

/-- Arguments are read with regard to the files there are; where they cannot be, or ask for help,
the program is at its end. To ask takes a label, a test for numbers and the lines of the input, of
which those behind the answer are left. -/
structure Toolkit where
  opening : (String → Bool) → List String → Except Turn Opening
  solveArguments : (String → Bool) → List String → Except Turn SolveArguments
  equation : List String → Except Turn String
  ask : String → (String → Option Float) → List String → String × Option (Float × List String)
  leave : Ending → String × Nat

/-- What the program relies on: it is asked again until a line is a number, where an empty line
never is one, and given up at the end of the input; and of a regular end nothing more is said. -/
structure Toolkit.Lawful (kit : Toolkit) : Prop where
  answered : ∀ label number? skipped line rest x,
    (∀ l ∈ skipped, l = "" ∨ number? l = none) → line ≠ "" → number? line = some x →
      (kit.ask label number? (skipped ++ line :: rest)).2 = some (x, rest)
  unanswered : ∀ label number? lines, (∀ l ∈ lines, l = "" ∨ number? l = none) →
    (kit.ask label number? lines).2 = none
  leave_done : kit.leave .done = ("", 0)
  leave_exit : ∀ code, kit.leave (.exit code) = ("", code)
  leave_aborted : (kit.leave .aborted).2 = 1

structure Libraries where
  reader : Yaml.Reader
  coercion : Bindings.Coercion reader.Value
  kit : Toolkit

end Reckon.CommandLine
