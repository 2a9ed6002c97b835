import Reckon.Expression
import Reckon.Text.Quoted

/-! Expressions in named slots, and what can be done with them. A step that fails leaves every slot
as it was, and so does one that asks for an empty slot. -/
namespace Reckon

abbrev Workspace := List (String × Expression)

namespace Workspace

def get? (w : Workspace) (slot : String) : Option Expression := w.lookup slot

def insert (w : Workspace) (slot : String) (e : Expression) : Workspace :=
  (slot, e) :: w.filter (·.1 != slot)

theorem get?_insert_self (w : Workspace) (slot : String) (e : Expression) :
    (w.insert slot e).get? slot = some e := by
  simp [get?, insert]

theorem get?_insert_of_ne (w : Workspace) {slot other : String} (h : other ≠ slot)
    (e : Expression) : (w.insert slot e).get? other = w.get? other := by
  have h' : (other == slot) = false := by simpa using h
  simp only [get?, insert, List.lookup_cons, h']
  induction w with
  | nil => rfl
  | cons p w ih =>
    obtain ⟨name, e'⟩ := p
    by_cases hn : name = slot
    · subst hn
      simpa [List.lookup_cons, h'] using ih
    · simp only [List.filter_cons, bne_iff_ne, ne_eq, hn, not_false_eq_true, if_true,
        List.lookup_cons]
      split
      · rfl
      · exact ih

/-- What is asked of one slot. Settings may still turn out to be none. -/
inductive Action where
  | read (source : String) (settings : Except SettingsFault Settings)
  | build (f : Formula) (settings : Except SettingsFault Settings)
  | rebuild (other : String) (settings : Except SettingsFault Settings)
  | bind (name : String) (x : Float)
  | bindAll (values : List (String × Float))
  | bindExpression (name other : String)
  | unresolved
  | validate
  | evaluate
  | text
  | quotedText
  | formula
  /-- What is handed out is a copy: emptying it empties no slot. -/
  | clearCopy

structure Step where
  slot : String
  action : Action

inductive Refusal where
  | formula (f : Fault)
  | settings (f : SettingsFault)

inductive Answer where
  | text (s : String)
  | names (names : List String)
  | valid
  | value (x : Float)
  | formula (f : Formula)
  | missing

def store (w : Workspace) (slot : String) :
    Except Fault Expression → Except Refusal Answer × Workspace
  | .ok e => (.ok (.text e.render), w.insert slot e)
  | .error f => (.error (.formula f), w)

def construct (w : Workspace) (slot : String) (settings : Except SettingsFault Settings)
    (make : Settings → Except Fault Expression) : Except Refusal Answer × Workspace :=
  match settings with
  | .ok s => w.store slot (make s)
  | .error f => (.error (.settings f), w)

def onSlot (w : Workspace) (slot : String)
    (act : Expression → Except Refusal Answer × Workspace) :
    Except Refusal Answer × Workspace :=
  match w.get? slot with
  | some e => act e
  | none => (.ok .missing, w)

def report (w : Workspace) : Except Fault Answer → Except Refusal Answer × Workspace
  | .ok a => (.ok a, w)
  | .error f => (.error (.formula f), w)

def perform (w : Workspace) : Step → Except Refusal Answer × Workspace
  | ⟨slot, .read source settings⟩ => w.construct slot settings (Expression.read · source)
  | ⟨slot, .build f settings⟩ => w.construct slot settings (Expression.ofFormula · f)
  | ⟨slot, .rebuild other settings⟩ =>
    w.onSlot other fun e => w.construct slot settings (Expression.ofFormula · e.formula)
  | ⟨slot, .bind name x⟩ => w.onSlot slot fun e => w.store slot (.ok (e.bind name x))
  | ⟨slot, .bindAll values⟩ =>
    w.onSlot slot fun e => w.store slot (.ok (e.bindAll (.ofList values)))
  | ⟨slot, .bindExpression name other⟩ =>
    w.onSlot slot fun e => w.onSlot other fun o => w.store slot (.ok (e.bindExpression name o))
  | ⟨slot, .unresolved⟩ => w.onSlot slot fun e => w.report (.ok (.names e.unresolved))
  | ⟨slot, .validate⟩ => w.onSlot slot fun e => w.report (e.validate.map fun _ => .valid)
  | ⟨slot, .evaluate⟩ => w.onSlot slot fun e => w.report (e.evaluate.map .value)
  | ⟨slot, .text⟩ => w.onSlot slot fun e => w.report (.ok (.text e.render))
  | ⟨slot, .quotedText⟩ =>
    w.onSlot slot fun e => w.report (.ok (.text ("Expression(" ++ Text.quoted e.render ++ ")")))
  | ⟨slot, .formula⟩ => w.onSlot slot fun e => w.report (.ok (.formula e.formula))
  | ⟨slot, .clearCopy⟩ => w.onSlot slot fun e => w.report (.ok (.text e.render))

def run (w : Workspace) : List Step → List (Except Refusal Answer) × Workspace
  | [] => ([], w)
  | step :: steps =>
    let (answer, w) := w.perform step
    let (answers, w) := run w steps
    (answer :: answers, w)

theorem run_append (w : Workspace) (u v : List Step) :
    w.run (u ++ v) = ((w.run u).1 ++ ((w.run u).2.run v).1, ((w.run u).2.run v).2) := by
  induction u generalizing w with
  | nil => rfl
  | cons step u ih => simp only [List.cons_append, run, ih]

end Workspace
end Reckon
