import Reckon.Text.Quoted
import Reckon.Text.Split

/-! Arguments of a command line: options by name, some with a value, and everything else. -/
namespace Reckon.Plain

inductive UsageFault where
  | noSuchOption (name : String)
  | noValue (name : String)
  | needlessValue (name : String)
  | noCommand
  | noSuchCommand (name : String)
  | noEquation
  | extraArguments (arguments : List String)
  | noSuchFile (option path : String)

def UsageFault.message : UsageFault → String
  | noSuchOption name => s!"No such option: {name}"
  | noValue name => s!"Option '{name}' requires an argument."
  | needlessValue name => s!"Option '{name}' does not take a value."
  | noCommand => "Missing command."
  | noSuchCommand name => s!"No such command '{name}'."
  | noEquation => "Missing argument 'EQUATION'."
  | extraArguments [argument] => s!"Got unexpected extra argument ({argument})"
  | extraArguments arguments =>
    "Got unexpected extra arguments (" ++ " ".intercalate arguments ++ ")"
  | noSuchFile option path =>
    s!"Invalid value for '{option}': File " ++ Text.quoted path ++ " does not exist."

structure Spec where
  flags : List String
  valued : List String

/-- An option and its value, which is empty where it has none. -/
abbrev Setting := String × String

inductive Word where
  | settings (given : List Setting)
  | needsValue (name : String)

def letters (spec : Spec) : List Char → Except UsageFault (List Setting)
  | [] => .ok []
  | c :: cs =>
    let name := String.ofList ['-', c]
    if spec.flags.contains name then (letters spec cs).map ((name, "") :: ·)
    else .error (.noSuchOption name)

def word (spec : Spec) (arg : String) : Except UsageFault Word :=
  let name := String.ofList (arg.toList.takeWhile (· != '='))
  let value? := (arg.toList.dropWhile (· != '=')).tail?
  if spec.valued.contains name then
    match value? with
    | some value => .ok (.settings [(name, String.ofList value)])
    | none => .ok (.needsValue name)
  else if spec.flags.contains name then
    match value? with
    | some _ => .error (.needlessValue name)
    | none => .ok (.settings [(name, "")])
  else if arg.toList.take 2 == ['-', '-'] then .error (.noSuchOption name)
  else (letters spec (arg.toList.drop 1)).map .settings

def isOption (arg : String) : Bool := arg.toList.head? == some '-' && arg.toList.length > 1

/-- Options and other arguments, each in the order given. Two dashes end the options; unless they
may be mixed, so does the first argument that is none. -/
def readArguments (spec : Spec) (mixed : Bool) :
    List String → Except UsageFault (List Setting × List String)
  | [] => .ok ([], [])
  | arg :: args =>
    if arg = "--" then .ok ([], args)
    else if isOption arg then
      match word spec arg with
      | .error f => .error f
      | .ok (.settings given) =>
        (readArguments spec mixed args).map fun (settings, rest) => (given ++ settings, rest)
      | .ok (.needsValue name) =>
        match args with
        | [] => .error (.noValue name)
        | value :: args =>
          (readArguments spec mixed args).map fun (settings, rest) =>
            ((name, value) :: settings, rest)
    else if mixed then
      (readArguments spec mixed args).map fun (settings, rest) => (settings, arg :: rest)
    else .ok ([], arg :: args)

def lastValue? (name : String) (settings : List Setting) : Option String :=
  settings.reverse.lookup name

def allValues (name : String) (settings : List Setting) : List String :=
  (settings.filter (·.1 == name)).map Prod.snd

def isGiven (name : String) (settings : List Setting) : Bool := settings.any (·.1 == name)

def plainPath (path : String) : String :=
  let parts := (Text.splitOn '/' path.toList).filter fun part => part != [] && part != ['.']
  let inner := "/".intercalate (parts.map String.ofList)
  if path.toList.head? == some '/' then "/" ++ inner else if inner = "" then "." else inner

end Reckon.Plain
