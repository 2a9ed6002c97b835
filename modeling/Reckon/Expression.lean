import Reckon.Bindings
import Reckon.Settings
import Reckon.Formula.Reading
import Reckon.Formula.Validity
import Reckon.Formula.Value
import Reckon.Formula.Binding
import Reckon.Formula.Rendered

/-! An expression is a formula under settings in which the constants are bound, once and before all
else, so no binding can ever reach them. -/
namespace Reckon

def constants : Bindings :=
  [("pi", 3.141592653589793), ("e", 2.718281828459045), ("tau", 6.283185307179586),
    ("deg", 0.017453292519943295)]

def Assignment.ofBindings (values : Bindings) : Assignment :=
  fun name => (values.lookup name).map .number

structure Expression where
  formula : Formula
  settings : Settings

namespace Expression

def ofFormula (settings : Settings) (f : Formula) : Except Fault Expression := do
  if settings.validates then f.validate settings.limit
  return ⟨f.replace (.ofBindings constants), settings⟩

def read (settings : Settings) (source : String) : Except Fault Expression := do
  let f ← Formula.read settings.limit source
  ofFormula settings f

def bind (e : Expression) (name : String) (x : Float) : Expression :=
  { e with formula := e.formula.bind name x }

def bindAll (e : Expression) (values : Bindings) : Expression :=
  values.foldl (fun e value => e.bind value.1 value.2) e

def bindExpression (e : Expression) (name : String) (other : Expression) : Expression :=
  { e with formula := e.formula.bindFormula name other.formula }

def unresolved (e : Expression) : List String := e.formula.unresolved

def validate (e : Expression) : Except Fault Unit := e.formula.validate e.settings.limit

def evaluate (e : Expression) : Except Fault Float := e.formula.evaluate e.settings.limit

def render (e : Expression) : String := e.formula.render

theorem bindAll_append (e : Expression) (u v : Bindings) :
    e.bindAll (u ++ v) = (e.bindAll u).bindAll v := List.foldl_append

theorem settings_bindAll (e : Expression) (values : Bindings) :
    (e.bindAll values).settings = e.settings := by
  induction values generalizing e with
  | nil => rfl
  | cons value values ih => exact ih _

end Expression

def solve (settings : Settings) (source : String) (values : List (String × Float)) :
    Except Fault Float := do
  let e ← Expression.read settings source
  (e.bindAll (.ofList values)).evaluate

end Reckon
