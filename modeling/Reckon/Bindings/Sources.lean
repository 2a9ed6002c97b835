import Reckon.Bindings
import Reckon.Numeral.Reading
import Reckon.Text.Quoted
import Reckon.Yaml.Reader

/-! Values for unknowns from outside: written `NAME=VALUE`, or listed in a document. -/
namespace Reckon

inductive BindingsFault where
  | noAssignment (text : String)
  | badNumber (name value : String)
  | badDocument (path : String)
  | badValues (path : String)

def BindingsFault.message : BindingsFault → String
  | noAssignment text => "Expected NAME=VALUE, got " ++ Text.quoted text
  | badNumber name value => s!"Invalid number for {name}: {Text.quoted value}"
  | badDocument path => "Invalid YAML in " ++ path
  | badValues path => "Invalid bindings in " ++ path

namespace Bindings
open Text Numeral Yaml

def noEquals (c : Char) : Bool := c != '='

/-- The first sign of equality parts the name from the value. -/
def ofAssignment (text : String) : Except BindingsFault (String × Float) :=
  let cs := text.toList
  let name := String.ofList (trim (cs.takeWhile noEquals))
  match cs.dropWhile noEquals with
  | [] => .error (.noAssignment text)
  | _ :: value =>
    if name = "" then .error (.noAssignment text)
    else
      match Numeral.read? (String.ofList value) with
      | some x => .ok (name, x)
      | none => .error (.badNumber name (String.ofList (trim value)))

/-- How the entries of a document are taken for names and numbers. -/
structure Coercion (α : Type) where
  name? : Scalar → Option String
  number? : α → Option Float

def ofBytes? (bs : List UInt8) : Option String := String.fromUTF8? ⟨bs.toArray⟩

def KeyFor (key : Scalar) (name : String) : Prop :=
  key = .text name ∨ ∃ bs, key = .bytes bs ∧ ofBytes? bs = some name

/-- What is known of these rules: which keys are names, that a float is the number it is, and that a
mapping is none. -/
structure Coercion.Lawful {R : Reader} (c : Coercion R.Value) : Prop where
  name_iff : ∀ key name, c.name? key = some name ↔ KeyFor key name
  number_of_float : ∀ v x, R.layer v = .scalar (.float x) → c.number? v = some x
  number_of_mapping : ∀ v m, R.layer v = .mapping m → c.number? v = none

def bindingOf? {α : Type} (c : Coercion α) (e : Scalar × α) : Option (String × Float) := do
  return (← c.name? e.1, ← c.number? e.2)

def sectionKey : String := "variables"

variable (R : Reader) (c : Coercion R.Value)

def sectionOf? (m : Mapping R.Value) : Option (Mapping R.Value) :=
  if m.entries.all (·.1 = .text sectionKey) then
    match (m.lookup? sectionKey).map R.layer with
    | some (.mapping inner) => some inner
    | _ => none
  else none

def listOf? (v : R.Value) : Option (Mapping R.Value) :=
  match (R.layer v).orEmpty with
  | .mapping m => some ((sectionOf? R m).getD m)
  | _ => none

/-- Where two keys spell the same name the later one counts. -/
def ofValue? (v : R.Value) : Option Bindings := do
  let m ← listOf? R v
  return .ofList (← m.entries.mapM (bindingOf? c))

def ofDocument (path content : String) : Except (Failure BindingsFault) Bindings :=
  match R.load content with
  | .ok v =>
    match ofValue? R c v with
    | some values => .ok values
    | none => .error (.fault (.badValues path))
  | .error .malformed => .error (.fault (.badDocument path))
  | .error .raised => .error (.crash (.unreadable path))

end Bindings
end Reckon
