import Reckon.CommandLine.Dialogue
import Reckon.Plain.Toolkit

/-! The program on a real command line. -/
namespace Reckon.CommandLine

def emit (t : Transcript) : IO Unit := do
  let out ← IO.getStdout
  let err ← IO.getStderr
  out.putStr t.out
  out.flush
  err.putStr t.err
  err.flush

/-- Files are read before the program begins, those at least that an argument could mean. -/
def readFiles (args : List String) : IO (List (String × String)) := do
  let candidates := args ++ args.filterMap fun arg =>
    (arg.toList.dropWhile (· != '=')).tail?.map String.ofList
  candidates.filterMapM fun (path : String) => do
    try
      let content ← IO.FS.readFile path
      return some (Plain.plainPath path, content)
    catch _ => return none

def Transcript.since (t before : Transcript) : Transcript :=
  ⟨String.ofList (t.out.toList.drop before.out.length),
    String.ofList (t.err.toList.drop before.err.length)⟩

/-- Where the program gives up for want of lines it goes on with one line more, if there is one. -/
partial def converse (w : Surroundings) (args lines : List String) (said : Transcript) :
    IO Nat := do
  let t := turn Plain.libraries w args lines
  match t.2 with
  | .aborted =>
    emit (t.1.since said)
    let line ← (← IO.getStdin).getLine
    if line.isEmpty then
      let (last, code) := Plain.leave .aborted
      emit (.warn last)
      return code
    else
      let line := String.ofList (line.toList.filter (· != '\n'))
      converse w args (lines ++ [line]) t.1
  | ending =>
    let (last, code) := Plain.leave ending
    emit ((t.1 ++ .warn last).since said)
    return code

end Reckon.CommandLine

open Reckon.CommandLine in
def main (args : List String) : IO UInt32 := do
  let files ← readFiles args
  let w : Surroundings :=
    ⟨← IO.getEnv "EQUATION_SOLVER_MAX_DEPTH", ← IO.getEnv "EQUATION_SOLVER_VALIDATE",
      fun path => files.lookup path⟩
  let code ← converse w args [] .empty
  return code.toUInt32
