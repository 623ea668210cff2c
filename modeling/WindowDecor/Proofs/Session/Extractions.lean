import WindowDecor.Proofs.Session.Changes
import WindowDecor.Proofs.Session.History

/-!
# Who looked for icons

The desktop records every look for icons, whoever asked for it.  Here the record of a run is taken
apart again, step by step and adapter by adapter.

* **`Desktop.extractions_performAll`** — what a list of actions adds to the record.
* `Session.newExtractions` — what a step adds to it.
* `actionsOn` — what was asked of one adapter in a run.
* `Session.extractionsBy` — what that came to in the record.
* `Session.adapter_step`, `Session.adapter_step_of_others` — an adapter changes by what is asked of
  it and by nothing else.
-/

namespace WindowDecor

/-! ## The record -/

/-- The file that an action looks for icons in. -/
def DesktopAction.extraction? : DesktopAction → Option FilePath
  | .extractIcons path => some path
  | _ => none

namespace Desktop

/-- An action that looks for icons is noted at the end of the record. -/
@[simp] theorem extractions_perform (d : Desktop) (action : DesktopAction) :
    (d.perform action).1.extractions = d.extractions ++ action.extraction?.toList := by
  cases action <;> simp [perform, DesktopAction.extraction?, noteExtraction, addMonitor, addWindow,
    destroyWindow, addIcons, failWindowBounds, failMonitorInfo, move, resize, flash, setIcon,
    setStyle, setProgress, changeWindow]

@[simp] theorem extractions_performAll (d : Desktop) (actions : List DesktopAction) :
    (d.performAll actions).extractions =
      d.extractions ++ actions.filterMap DesktopAction.extraction? :=
  record_performAll extractions_perform d actions

end Desktop

namespace Session

/-- What a step adds to the record. -/
def newExtractions (s : Session) (step : Step) : List FilePath :=
  (s.step step).1.desktop.extractions.drop s.desktop.extractions.length

theorem newExtractions_adapter {s : Session} {index : Nat} {a : Adapter}
    (ha : s.adapters[index]? = some a) (action : DecoratorAction) :
    s.newExtractions (.adapter index action) =
      (a.requests s.program s.desktop action).filterMap DesktopAction.extraction? := by
  rw [newExtractions, step_adapter ha, Desktop.extractions_performAll, List.drop_left]

end Session

/-! ## One adapter's part -/

/-- What a step asks of the adapter with the given index. -/
def Step.actionOn? (index : Nat) : Step → Option DecoratorAction
  | .adapter i action => if i = index then some action else none
  | _ => none

@[simp] theorem Step.actionOn?_adapter (index : Nat) (action : DecoratorAction) :
    (Step.adapter index action).actionOn? index = some action := by
  simp [actionOn?]

/-- Only a step that names the adapter asks something of it. -/
theorem Step.actionOn?_eq_some {index : Nat} {step : Step} {action : DecoratorAction}
    (h : step.actionOn? index = some action) : step = .adapter index action := by
  cases step with
  | adapter i asked =>
    simp only [actionOn?, Option.ite_none_right_eq_some, Option.some.injEq] at h
    obtain ⟨rfl, rfl⟩ := h
    rfl
  | _ => cases h

/-- What a run asks of the adapter with the given index. -/
def actionsOn (index : Nat) (steps : List Step) : List DecoratorAction :=
  steps.filterMap (Step.actionOn? index)

@[simp] theorem actionsOn_append (index : Nat) (steps later : List Step) :
    actionsOn index (steps ++ later) = actionsOn index steps ++ actionsOn index later :=
  List.filterMap_append

/-- A further step asks at most one further action of an adapter. -/
theorem actionsOn_snoc (index : Nat) (steps : List Step) (step : Step) :
    actionsOn index (steps ++ [step]) =
      actionsOn index steps ++ (step.actionOn? index).toList := by
  rw [actionsOn_append]
  cases hstep : step.actionOn? index <;> simp [actionsOn, hstep]

namespace Session

/-- What a step adds to the record on behalf of one adapter. -/
def newExtractionsBy (s : Session) (index : Nat) (step : Step) : List FilePath :=
  if (step.actionOn? index).isSome then s.newExtractions step else []

/-- A step that does not ask an adapter has it look nowhere. -/
theorem newExtractionsBy_of_others {index : Nat} {step : Step} (s : Session)
    (hstep : step.actionOn? index = none) : s.newExtractionsBy index step = [] := by
  simp [newExtractionsBy, hstep]

theorem newExtractionsBy_adapter {s : Session} {index : Nat} {a : Adapter}
    (ha : s.adapters[index]? = some a) (action : DecoratorAction) :
    s.newExtractionsBy index (.adapter index action) =
      (a.requests s.program s.desktop action).filterMap DesktopAction.extraction? := by
  have hon : (Step.adapter index action).actionOn? index = some action := by simp
  rw [newExtractionsBy, hon, ← newExtractions_adapter ha]
  rfl

/-- What a run adds to the record on behalf of one adapter. -/
def extractionsBy (s : Session) (index : Nat) : List Step → List FilePath
  | [] => []
  | step :: steps => s.newExtractionsBy index step ++ extractionsBy (s.step step).1 index steps

theorem extractionsBy_snoc (s : Session) (index : Nat) (steps : List Step) (step : Step) :
    s.extractionsBy index (steps ++ [step]) =
      s.extractionsBy index steps ++ (s.after steps).newExtractionsBy index step := by
  induction steps generalizing s with
  | nil => simp [extractionsBy]
  | cons first rest ih =>
    rw [List.cons_append, extractionsBy, extractionsBy, ih, after_cons, List.append_assoc]

/-- An adapter is changed by what is asked of it. -/
theorem adapter_step {s : Session} {index : Nat} {a : Adapter}
    (ha : s.adapters[index]? = some a) (action : DecoratorAction) :
    (s.step (.adapter index action)).1.adapters[index]? =
      some (a.next s.program s.desktop action) := by
  rw [step_adapter ha]
  show (s.adapters.set index _)[index]? = _
  rw [List.getElem?_set_self', ha]
  rfl

/-- Nothing else changes it. -/
theorem adapter_step_of_others {s : Session} {index : Nat} {a : Adapter} {step : Step}
    (ha : s.adapters[index]? = some a) (hstep : step.actionOn? index = none) :
    (s.step step).1.adapters[index]? = some a := by
  cases step with
  | newAdapter kind settings =>
    cases settings with
    | error e => exact ha
    | ok settings =>
      obtain ⟨hlt, -⟩ := List.getElem?_eq_some_iff.mp ha
      show (s.adapters ++ [.new kind settings])[index]? = some a
      rw [List.getElem?_append_left hlt, ha]
  | adapter i action =>
    have hne : i ≠ index := by
      rintro rfl
      simp at hstep
    cases hi : s.adapters[i]? with
    | none => simpa only [step, hi] using ha
    | some other =>
      rw [step_adapter hi]
      show (s.adapters.set i _)[index]? = some a
      rw [List.getElem?_set_ne hne, ha]
  | _ => exact ha

/-- No step changes what is known of the program's file. -/
@[simp] theorem program_step (s : Session) (step : Step) : (s.step step).1.program = s.program := by
  cases step with
  | newAdapter kind settings => cases settings <;> rfl
  | adapter i action =>
    cases hi : s.adapters[i]? with
    | none => simp only [Session.step, hi]
    | some a => rw [step_adapter hi]
  | _ => rfl

@[simp]
theorem program_after (s : Session) (steps : List Step) : (s.after steps).program = s.program := by
  induction steps using List.reverseRecOn with
  | nil => rfl
  | append_singleton steps step ih => rw [after_snoc, program_step, ih]

end Session

end WindowDecor
