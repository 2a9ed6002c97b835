import Reckon.Settings
import Reckon.Numeral.Reading
import Reckon.Text.Ascending
import Reckon.Yaml.Reader

/-! Where settings come from: two variables of the environment, or a document. -/
namespace Reckon.Settings
open Text Numeral Yaml

def yesWords : List String := ["1", "true", "yes", "on"]

def saysYes (s : String) : Bool := yesWords.contains (String.ofList (lower (trim s.toList)))

/-- An empty variable counts as none. -/
def ofEnvironment (depth? validates? : Option String) : Except SettingsFault Settings :=
  let validates := validates?.any saysYes
  match depth? with
  | none | some "" => .ok { standard with validates := validates }
  | some s =>
    match (readInteger? s).map (make · validates) with
    | some (.ok settings) => .ok settings
    | _ => .error (.badVariable s)

def mostDigits : Nat := 4300

def isWritable (i : Int) : Bool := i.natAbs < tenTo mostDigits

def depthKey : String := "max_depth"
def validatesKey : String := "validate_on_construct"
def sectionKey : String := "solver"

def isKnown (key : Scalar) : Bool := key = .text depthKey || key = .text validatesKey

def strangers {α : Type} (m : Mapping α) : List Scalar :=
  (m.entries.map Prod.fst).filter fun key => !isKnown key

/-- Keys that are no settings are listed in order. This takes texts: other keys cannot be joined,
and may not even be comparable. -/
def checkKeys {α : Type} (path : String) (m : Mapping α) : Except (Failure SettingsFault) Unit :=
  match strangers m with
  | [] => .ok ()
  | unknown =>
    match unknown.mapM Scalar.text? with
    | some names => .error (.fault (.unknownKeys path (ascending names)))
    | none => .error (.crash (.unlistableKeys unknown))

variable (R : Reader)

def depthOf (path : String) (m : Mapping R.Value) : Except (Failure SettingsFault) Int :=
  match (m.lookup? depthKey).map R.layer with
  | none => .ok defaultDepth
  | some (.scalar (.int i)) => .ok i
  | some _ => .error (.fault (.depthNotWhole path))

def validatesOf (m : Mapping R.Value) : Bool :=
  (m.lookup? validatesKey).any fun w => (R.layer w).truth

/-- A depth that is too low is named in the message, and of very long numbers none can be
written. -/
def ofMapping (path : String) (m : Mapping R.Value) : Except (Failure SettingsFault) Settings := do
  checkKeys path m
  let depth ← depthOf R path m
  match make depth (validatesOf R m) with
  | .ok s => .ok s
  | .error f => .error (if isWritable depth then .fault f else .crash (.unwritableDepth depth))

def sectionOf (path : String) (v : R.Value) :
    Except (Failure SettingsFault) (Mapping R.Value) :=
  match (R.layer v).orEmpty with
  | .mapping m =>
    match (m.lookup? sectionKey).map fun w => (R.layer w).orEmpty with
    | none => .ok m
    | some (.mapping inner) => .ok inner
    | some _ => .error (.fault (.noMappingInSection path))
  | _ => .error (.fault (.noMapping path))

def ofValue (path : String) (v : R.Value) : Except (Failure SettingsFault) Settings := do
  ofMapping R path (← sectionOf R path v)

def ofDocument (path content : String) : Except (Failure SettingsFault) Settings :=
  match R.load content with
  | .ok v => ofValue R path v
  | .error .malformed => .error (.fault (.badDocument path))
  | .error .raised => .error (.crash (.unreadable path))

end Reckon.Settings
