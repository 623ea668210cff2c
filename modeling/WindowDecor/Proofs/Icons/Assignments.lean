import WindowDecor.Proofs.Session.Answers
import WindowDecor.Proofs.Session.Extractions

/-!
# Icons that are put on windows

The desktop records every icon that is put into a slot of a window, also if there is no such window.
A step adds to this record what it assigns, and nothing is ever taken out.

* `Session.newAssignments`, `Session.assigned` — what a step adds, and what a run does
  (`Session.assignments_step`, `Session.assignments_after`).
* `Adapter.dresses?` — the window that an action puts the icons at hand on.
* **`Adapter.requests_filterMap_assignment?`** — those are the icons that the adapter has *after* the
  action, the big one before the small one, and an adapter assigns no other.
-/

namespace WindowDecor

/-! ## The record -/

/-- The assignment that an action is. -/
def DesktopAction.assignment? : DesktopAction → Option IconAssignment
  | .setIcon w slot icon => some ⟨w, slot, icon⟩
  | _ => none

/-- An action that puts an icon into a slot is noted at the end of the record. -/
@[simp] theorem Desktop.assignments_perform (d : Desktop) (action : DesktopAction) :
    (d.perform action).1.assignments = d.assignments ++ action.assignment?.toList := by
  cases action <;> simp [perform, DesktopAction.assignment?, noteExtraction, addMonitor, addWindow,
    destroyWindow, addIcons, failWindowBounds, failMonitorInfo, move, resize, flash, setIcon,
    setStyle, setProgress, changeWindow]

namespace Session

/-- What a step adds to the record. -/
def newAssignments (s : Session) (step : Step) : List IconAssignment :=
  (s.step step).1.desktop.assignments.drop s.desktop.assignments.length

theorem newAssignments_eq (s : Session) (step : Step) :
    s.newAssignments step = (s.changes step).filterMap DesktopAction.assignment? := by
  rw [newAssignments, desktop_step, Desktop.record_performAll Desktop.assignments_perform,
    List.drop_left]

/-- **The record only ever grows.** -/
theorem assignments_step (s : Session) (step : Step) :
    (s.step step).1.desktop.assignments = s.desktop.assignments ++ s.newAssignments step := by
  rw [newAssignments_eq, desktop_step, Desktop.record_performAll Desktop.assignments_perform]

/-- What a run adds to the record. -/
def assigned (s : Session) : List Step → List IconAssignment
  | [] => []
  | step :: steps => s.newAssignments step ++ assigned (s.step step).1 steps

/-- A run notes what its steps assign, in order. -/
theorem assignments_after (s : Session) (steps : List Step) :
    (s.after steps).desktop.assignments = s.desktop.assignments ++ s.assigned steps := by
  induction steps generalizing s with
  | nil => exact (List.append_nil _).symm
  | cons step steps ih => rw [after_cons, ih, assignments_step, assigned, List.append_assoc]

end Session

/-! ## What adapters assign -/

/-- The icons of a cache, put on a window. -/
def IconCache.assignedTo (c : IconCache) (w : WindowHandle) : List IconAssignment :=
  c.assignments.map fun a => ⟨w, a.1, a.2⟩

/-- The large icon goes into the big slot, and before the small one. -/
theorem IconCache.assignedTo_loaded (icons : IconPair) (w : WindowHandle) :
    (IconCache.loaded icons).assignedTo w =
      (icons.large.map fun icon => ⟨w, .big, icon⟩).toList ++
        (icons.small.map fun icon => ⟨w, .small, icon⟩).toList := by
  obtain ⟨large, small⟩ := icons
  cases large <;> cases small <;> rfl

@[simp] theorem Desktop.centerRequests_filterMap_assignment? (d : Desktop) (w : WindowHandle) :
    (d.centerRequests w).filterMap DesktopAction.assignment? = [] := by
  simp only [centerRequests]
  split
  · rfl
  · split <;> rfl

namespace Decorator

variable (d : Decorator) (program : ProgramFile) (desktop : Desktop) (w : WindowHandle)

/-- The icons at hand are assigned, the big one first. -/
@[simp] theorem iconRequests_filterMap_assignment? :
    (d.iconRequests w).filterMap DesktopAction.assignment? = d.icons.assignedTo w := by
  rw [iconRequests, List.filterMap_map, IconCache.assignedTo, ← List.filterMap_eq_map]
  rfl

@[simp] theorem loadRequests_filterMap_assignment? :
    (d.loadRequests program).filterMap DesktopAction.assignment? = [] := by
  simp only [loadRequests]
  cases d.iconSource program <;> rfl

/-- An adapter's own icons are those that it has when it is ready. -/
@[simp] theorem ownIconRequests_filterMap_assignment? :
    (d.ownIconRequests program desktop w).filterMap DesktopAction.assignment? =
      (d.ready program desktop).icons.assignedTo w := by
  have hload : (if d.icons.isLoaded then [] else d.loadRequests program).filterMap
      DesktopAction.assignment? = [] := by
    split
    · rfl
    · exact d.loadRequests_filterMap_assignment? program
  rw [ownIconRequests, List.filterMap_append, hload, List.nil_append,
    iconRequests_filterMap_assignment?]

end Decorator

namespace Adapter

/-- The window that an action puts the icons at hand on. -/
def dresses? (a : Adapter) : DecoratorAction → Option WindowHandle
  | .applyIcons w | .plainApplyIcons w => some w
  | .prepare w =>
      match a.kind with
      | .plain => none
      | .reporting => some w
  | _ => none

/-- **An adapter assigns the icons that it has after the action**, and no others. -/
theorem requests_filterMap_assignment? (a : Adapter) (program : ProgramFile) (desktop : Desktop)
    (action : DecoratorAction) :
    (a.requests program desktop action).filterMap DesktopAction.assignment? =
      ((a.dresses? action).map (a.next program desktop action).decorator.icons.assignedTo).getD
        [] := by
  obtain ⟨kind, d⟩ := a
  cases action with
  | center w => exact desktop.centerRequests_filterMap_assignment? w
  | plainCenter w => exact desktop.centerRequests_filterMap_assignment? w
  | plainApplyIcons w => exact d.iconRequests_filterMap_assignment? w
  | loadIconsFrom path => cases kind <;> rfl
  | loadOwnIcons =>
    cases kind with
    | plain => rfl
    | reporting => exact d.loadRequests_filterMap_assignment? program
  | applyIcons w =>
    cases kind with
    | plain => exact d.iconRequests_filterMap_assignment? w
    | reporting => exact d.ownIconRequests_filterMap_assignment? program desktop w
  | prepare w =>
    cases kind with
    | plain => rfl
    | reporting =>
      show (d.prepareRequests program desktop w).filterMap DesktopAction.assignment? = _
      simp only [Decorator.prepareRequests, List.filterMap_append,
        Decorator.ownIconRequests_filterMap_assignment?,
        Desktop.centerRequests_filterMap_assignment?, List.append_nil]
      exact List.append_nil _
  | _ => rfl

end Adapter

/-- What asking an adapter adds to the record. -/
theorem Session.newAssignments_adapter {s : Session} {index : Nat} {a : Adapter}
    (ha : s.adapters[index]? = some a) (action : DecoratorAction) :
    s.newAssignments (.adapter index action) =
      ((a.dresses? action).map
        (a.next s.program s.desktop action).decorator.icons.assignedTo).getD [] := by
  rw [newAssignments_eq, ← a.requests_filterMap_assignment?, changes, ha]

end WindowDecor
