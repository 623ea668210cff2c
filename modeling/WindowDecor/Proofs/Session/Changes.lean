import WindowDecor.Proofs.Session.Requests

/-!
# What a step changes

A step changes the desktop by a list of actions, and an adapter's step by requests for one window.

* `Session.changes` — the actions that a step comes to, and **`Session.desktop_step`** that they are
  all that it does to the desktop.
* `DesktopAction.change`, `changeAll` — what requests make of the window that they are for, and
  **`Desktop.window?_performAll`** that they leave every other one alone.
* `Desktop.record_performAll` — a record that grows by each action grows by a list of them.
-/

namespace WindowDecor

/-! ## Windows -/

/-- What a request makes of the window that it is for. -/
def DesktopAction.change : DesktopAction → Window → Window
  | .move _ origin => (·.moveTo origin)
  | .resize _ width height => (·.resize width height)
  | .setStyle _ flags => (·.setStyle flags)
  | .setIcon _ slot icon => (·.setIcon icon slot)
  | _ => id

/-- What a list of requests makes of it. -/
def changeAll (requests : List DesktopAction) (window : Window) : Window :=
  requests.foldl (fun window r => r.change window) window

/-- A part that no request changes is not changed by all of them. -/
theorem changeAll_view {α : Type} (view : Window → α) {requests : List DesktopAction}
    (hview : ∀ r ∈ requests, ∀ window, view (r.change window) = view window) (window : Window) :
    view (changeAll requests window) = view window := by
  induction requests generalizing window with
  | nil => rfl
  | cons r rest ih =>
    have hrest := ih (fun r hr => hview r (List.mem_cons_of_mem _ hr)) (r.change window)
    exact hrest.trans (hview r List.mem_cons_self window)

namespace Desktop

/-- **A request changes the window that it is for**, and what it makes of that window depends on
nothing else. -/
theorem window?_request {target : Option WindowHandle} {r : DesktopAction}
    (hr : r.isRequestFor target) (d : Desktop) (w : WindowHandle) :
    (d.perform r).1.window? w =
      if target = some w then (d.window? w).map r.change else d.window? w := by
  have hreach : ∀ (v : WindowHandle) (change : Window → Window),
      (if w = v then (d.window? v).map change else d.window? w) =
        if some v = some w then (d.window? w).map change else d.window? w := by
    intro v change
    by_cases hw : w = v
    · simp [hw]
    · simp [hw, Ne.symm hw]
  have hkeep : d.window? w = if target = some w then (d.window? w).map id else d.window? w := by
    rw [Option.map_id, id, ite_self]
  cases r with
  | move v origin =>
    obtain rfl : target = some v := of_decide_eq_true hr
    exact (d.window?_move v w origin).trans (hreach v _)
  | resize v width height =>
    obtain rfl : target = some v := of_decide_eq_true hr
    exact (d.window?_resize v w width height).trans (hreach v _)
  | setStyle v style =>
    obtain rfl : target = some v := of_decide_eq_true hr
    exact (d.window?_setStyle v w style).trans (hreach v _)
  | setIcon v slot icon =>
    obtain rfl : target = some v := of_decide_eq_true hr
    exact (d.window?_setIcon v w slot icon).trans (hreach v _)
  | flash v count => exact hkeep
  | setProgress v state => exact hkeep
  | extractIcons path => exact hkeep
  | _ => cases hr

/-- No request changes monitors. -/
theorem monitors_request {target : Option WindowHandle} {r : DesktopAction} (d : Desktop)
    (hr : r.isRequestFor target) : (d.perform r).1.monitors = d.monitors := by
  cases r <;> first | rfl | cases hr

theorem resources_request {target : Option WindowHandle} {r : DesktopAction} (d : Desktop)
    (hr : r.isRequestFor target) : (d.perform r).1.resources = d.resources := by
  cases r <;> first | rfl | cases hr

/-- **Requests change the window that they are for**, one after the other. -/
theorem window?_performAll {target : Option WindowHandle} {requests : List DesktopAction}
    (hrequests : ∀ r ∈ requests, r.isRequestFor target) (d : Desktop) (w : WindowHandle) :
    (d.performAll requests).window? w =
      if target = some w then (d.window? w).map (changeAll requests) else d.window? w := by
  induction requests generalizing d with
  | nil =>
    have hnone : changeAll [] = id := rfl
    rw [hnone, Option.map_id, id, ite_self]
    rfl
  | cons r rest ih =>
    have hrest := ih (fun r hr => hrequests r (List.mem_cons_of_mem _ hr)) (d.perform r).1
    rw [performAll_cons, hrest, window?_request (hrequests r List.mem_cons_self)]
    split
    · rw [Option.map_map]
      rfl
    · rfl

/-! ## Records -/

/-- What single actions add to a record, a list of actions adds in order. -/
theorem record_performAll {α : Type} {record : Desktop → List α} {written? : DesktopAction → Option α}
    (hperform : ∀ (d : Desktop) action,
      record (d.perform action).1 = record d ++ (written? action).toList)
    (d : Desktop) (actions : List DesktopAction) :
    record (d.performAll actions) = record d ++ actions.filterMap written? := by
  induction actions generalizing d with
  | nil => simp [performAll]
  | cons action rest ih =>
    rw [performAll_cons, ih, hperform, List.append_assoc]
    cases haction : written? action with
    | none => simp [haction]
    | some entry => simp [haction]

end Desktop

/-! ## Steps -/

namespace Session

/-- What a step does to the desktop. -/
def changes (s : Session) : Step → List DesktopAction
  | .desktop action => [action]
  | .adapter index action =>
      match s.adapters[index]? with
      | none => []
      | some a => a.requests s.program s.desktop action
  | _ => []

/-- A step does to the desktop what its changes do. -/
theorem desktop_step (s : Session) (step : Step) :
    (s.step step).1.desktop = s.desktop.performAll (s.changes step) := by
  cases step with
  | newAdapter kind settings => cases settings <;> rfl
  | adapter index action =>
    cases ha : s.adapters[index]? with
    | none => simp only [Session.step, changes, ha]; rfl
    | some a => simp only [step_adapter ha, changes, ha]
  | _ => rfl

end Session

end WindowDecor
