import Reckon.Proofs.Outcome
import Reckon.Workspace

/-! What holds of every expression in a workspace, whatever has been done. Expressions come about
in one way and are bound in three, so a property that all of these keep is kept by every run. -/
namespace Reckon
open Outcome

namespace Workspace

def Holds (P : Expression → Prop) (w : Workspace) : Prop :=
  ∀ slot e, w.get? slot = some e → P e

def Action.Under (A : Settings → Prop) : Action → Prop
  | .read _ (.ok s) => A s
  | .build _ (.ok s) => A s
  | .rebuild _ (.ok s) => A s
  | _ => True

theorem Action.under_of_forall {A : Settings → Prop} (hA : ∀ s, A s) (action : Action) :
    action.Under A := by
  unfold Action.Under
  split
  · exact hA _
  · exact hA _
  · exact hA _
  · trivial

/-- A property that construction under such settings brings about and no binding takes away. -/
structure Invariant (A : Settings → Prop) (P : Expression → Prop) : Prop where
  made : ∀ s f e, A s → Expression.ofFormula s f = .ok e → P e
  bound : ∀ e name x, P e → P (e.bind name x)
  spliced : ∀ e name other, P e → P other → P (e.bindExpression name other)

variable {A : Settings → Prop} {P : Expression → Prop} {w : Workspace}

theorem holds_nil : Holds P [] := by
  intro slot e h
  cases h

theorem Holds.insert (hw : w.Holds P) {e : Expression} (he : P e) (slot : String) :
    (w.insert slot e).Holds P := by
  intro other o ho
  by_cases h : other = slot
  · subst h
    rw [get?_insert_self] at ho
    cases ho
    exact he
  · rw [get?_insert_of_ne w h] at ho
    exact hw other o ho

theorem Holds.store (hw : w.Holds P) {slot : String} {outcome : Except Fault Expression}
    (ho : ∀ e, outcome = .ok e → P e) : (w.store slot outcome).2.Holds P := by
  cases outcome with
  | error f => exact hw
  | ok e => exact hw.insert (ho e rfl) slot

theorem Holds.construct (hw : w.Holds P) {slot : String} {settings : Except SettingsFault Settings}
    {make : Settings → Except Fault Expression}
    (hmake : ∀ s e, settings = .ok s → make s = .ok e → P e) :
    (w.construct slot settings make).2.Holds P := by
  cases settings with
  | error f => exact hw
  | ok s => exact hw.store fun e he => hmake s e rfl he

theorem Holds.onSlot (hw : w.Holds P) {slot : String}
    {act : Expression → Except Refusal Answer × Workspace}
    (hact : ∀ e, P e → (act e).2.Holds P) : (w.onSlot slot act).2.Holds P := by
  unfold Workspace.onSlot
  cases h : w.get? slot with
  | none => exact hw
  | some e => exact hact e (hw slot e h)

theorem Holds.report (hw : w.Holds P) (answer : Except Fault Answer) :
    (w.report answer).2.Holds P := by
  cases answer with
  | error f => exact hw
  | ok a => exact hw

theorem Invariant.bindAll (inv : Invariant A P) {e : Expression} (he : P e) (values : Bindings) :
    P (e.bindAll values) := by
  induction values generalizing e with
  | nil => exact he
  | cons value values ih => exact ih (inv.bound e value.1 value.2 he)

theorem Invariant.perform (inv : Invariant A P) (hw : w.Holds P) {step : Step}
    (hstep : step.action.Under A) : (w.perform step).2.Holds P := by
  obtain ⟨slot, action⟩ := step
  cases action with
  | read source settings =>
    refine hw.construct ?_
    intro s e hs he
    subst hs
    obtain ⟨f, -, hf⟩ := bind_eq_ok.1 he
    exact inv.made s f e hstep hf
  | build f settings =>
    refine hw.construct ?_
    intro s e hs he
    subst hs
    exact inv.made s f e hstep he
  | rebuild other settings =>
    refine hw.onSlot fun o _ => hw.construct ?_
    intro s e hs he
    subst hs
    exact inv.made s o.formula e hstep he
  | bind name x =>
    refine hw.onSlot fun e he => hw.store ?_
    intro e' he'
    cases he'
    exact inv.bound e name x he
  | bindAll values =>
    refine hw.onSlot fun e he => hw.store ?_
    intro e' he'
    cases he'
    exact inv.bindAll he _
  | bindExpression name other =>
    refine hw.onSlot fun e he => hw.onSlot fun o ho => hw.store ?_
    intro e' he'
    cases he'
    exact inv.spliced e name o he ho
  | unresolved => exact hw.onSlot fun e _ => hw.report _
  | validate => exact hw.onSlot fun e _ => hw.report _
  | evaluate => exact hw.onSlot fun e _ => hw.report _
  | text => exact hw.onSlot fun e _ => hw.report _
  | quotedText => exact hw.onSlot fun e _ => hw.report _
  | formula => exact hw.onSlot fun e _ => hw.report _
  | clearCopy => exact hw.onSlot fun e _ => hw.report _

theorem Invariant.run (inv : Invariant A P) (hw : w.Holds P) {steps : List Step}
    (hsteps : ∀ step ∈ steps, step.action.Under A) : (w.run steps).2.Holds P := by
  induction steps generalizing w with
  | nil => exact hw
  | cons step steps ih =>
    obtain ⟨hstep, hrest⟩ := List.forall_mem_cons.1 hsteps
    exact ih (inv.perform hw hstep) hrest

end Workspace
end Reckon
