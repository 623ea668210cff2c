import WindowDecor.Proofs.Session.Requests

/-!
# What adapters answer and log

Next to the requests of an action stand its answer and its events.  Both can be read off the adapter
and the desktop before the action.  For `prepare`, which centers the window only after it gave it
icons and a frame, that is because centering looks at monitors and at a window's place alone.

* `Desktop.place?`, `Desktop.center_congr` — what centering looks at, and that it is nothing more.
* `Adapter.answer`, `Adapter.events` — the two, in closed form.
* **`Adapter.perform_eq`** — with `Adapter.next` and `Adapter.requests` they are all there is to an
  action, and so to a step of a session that asks an adapter (`Session.step_adapter_eq`).
-/

namespace WindowDecor

/-! ## Centering -/

/-- A window's bounds, and whether reading them fails. -/
def Window.place (window : Window) : Rect × Bool := (window.bounds, window.boundsFail)

@[simp] theorem Window.place_setIcon (window : Window) (icon : IconHandle) (slot : IconClass) :
    (window.setIcon icon slot).place = window.place := by
  simp [place]

namespace Desktop

/-- The place of the window that a handle names, if there is one. -/
def place? (d : Desktop) (w : WindowHandle) : Option (Rect × Bool) := (d.window? w).map (·.place)

/-- Reading bounds looks at the place of a window and at nothing else. -/
theorem bounds_eq_place? (d : Desktop) (w : WindowHandle) : d.bounds w =
    match d.place? w with
    | none => .error ⟨"GetWindowRect", "invalid window handle"⟩
    | some (bounds, fails) =>
        if fails then .error ⟨"GetWindowRect", "window rect unavailable"⟩ else .ok bounds := by
  simp only [bounds, place?]
  cases d.window? w <;> rfl

theorem monitorOf?_eq_place? (d : Desktop) (w : WindowHandle) : d.monitorOf? w =
    (((d.place? w).bind fun place =>
      d.monitors.find? fun m => m.geometry.Contains place.1.center).or d.monitors.head?).map
        (·.handle) := by
  simp only [monitorOf?, place?]
  cases d.window? w <;> rfl

/-- **Centering looks at the monitors and at the window's place.** -/
theorem center_congr {d d' : Desktop} {w : WindowHandle} (hmonitors : d.monitors = d'.monitors)
    (hplace : d.place? w = d'.place? w) :
    (center w d).1 = (center w d').1 ∧ d.centerRequests w = d'.centerRequests w := by
  have hmonitor : d.monitorOf? w = d'.monitorOf? w := by
    rw [monitorOf?_eq_place?, monitorOf?_eq_place?, hplace, hmonitors]
  have hbounds : d.bounds w = d'.bounds w := by
    rw [bounds_eq_place?, bounds_eq_place?, hplace]
  have harea : ∀ m, d.workArea m = d'.workArea m := by
    simp only [workArea, monitor?, hmonitors, implies_true]
  constructor
  · rw [center, bind_apply, bind_apply, monitorOf_apply, monitorOf_apply, hmonitor]
    cases d'.monitorOf? w with
    | none => rfl
    | some m =>
      simp only [bind_apply, workArea_apply, harea]
      cases d'.workArea m with
      | error cause => rfl
      | ok area =>
        simp only [bind_apply, bounds_apply, hbounds]
        cases d'.bounds w <;> rfl
  · simp only [centerRequests, hmonitor, harea, hbounds]

/-- What is logged of an attempt to center a window. -/
def centerEvents (d : Desktop) (w : WindowHandle) : List LogEvent :=
  match (center w d).1 with
  | .ok () => []
  | .error e => [.notCentered w e]

end Desktop

/-! ## Icons -/

/-- How many icons there are to be found in a file; none if it is not known which. -/
def Desktop.countAt (d : Desktop) (source : ProgramFile) : UInt32 :=
  match source with
  | .error _ => 0
  | .ok path => (d.iconsAt path).count

namespace Decorator

variable (d : Decorator) (program : ProgramFile) (desktop : Desktop) (w : WindowHandle)

/-- What is logged of a load. -/
def loadEvents : List LogEvent :=
  match d.iconSource program with
  | .error reason => [.programUnknown reason]
  | .ok source => [.iconsLoaded source (desktop.iconsAt source).count]

/-- What is logged while a window gets its icons. -/
def ownIconEvents : List LogEvent :=
  if d.icons.isLoaded then [] else d.loadEvents program desktop

/-- The desktop on which `prepare` centers the window: with its icons and its frame fixed. -/
def prepared : Desktop :=
  let withIcons := desktop.performAll (d.ownIconRequests program desktop w)
  withIcons.performAll (withIcons.fixStyleRequests w)

/-- What has loaded is ready as it is. -/
theorem ready_of_isLoaded (h : d.icons.isLoaded) : d.ready program desktop = d := if_pos h

/-- A load leaves a pair at hand, be it of no icons. -/
@[simp] theorem isLoaded_loaded : (d.loaded program desktop).icons.isLoaded := by
  simp only [loaded]
  cases d.iconSource program <;> rfl

@[simp] theorem isLoaded_ready : (d.ready program desktop).icons.isLoaded := by
  simp only [ready]
  split
  · assumption
  · exact d.isLoaded_loaded program desktop

@[simp] theorem settings_loaded : (d.loaded program desktop).settings = d.settings := by
  simp only [loaded]
  cases d.iconSource program <;> rfl

@[simp] theorem settings_ready : (d.ready program desktop).settings = d.settings := by
  simp only [ready]
  split
  · rfl
  · exact d.settings_loaded program desktop

/-- Loading answers with the number of icons that were found, and logs it. -/
theorem loadOwnIcons_answer : (d.loadOwnIcons program desktop).1.2 =
    (desktop.countAt (d.iconSource program), d.loadEvents program desktop) := by
  simp only [loadOwnIcons, Desktop.countAt, loadEvents]
  cases d.iconSource program <;> rfl

theorem applyOwnIcons_events :
    (d.applyOwnIcons program w desktop).1.2 = d.ownIconEvents program desktop := by
  simp only [applyOwnIcons, ownIconEvents]
  cases d.icons.isLoaded with
  | true => rfl
  | false => exact congrArg Prod.snd (d.loadOwnIcons_answer program desktop)

/-- Giving a window its icons takes two kinds of request. -/
theorem ownIconRequests_cases {r : DesktopAction} (hr : r ∈ d.ownIconRequests program desktop w) :
    (∃ slot icon, r = .setIcon w slot icon) ∨ ∃ path, r = .extractIcons path := by
  rcases List.mem_append.mp hr with hload | hicon
  · right
    split at hload
    · cases hload
    · simp only [loadRequests] at hload
      split at hload
      · cases hload
      · exact ⟨_, List.mem_singleton.mp hload⟩
  · left
    obtain ⟨assignment, -, rfl⟩ := List.mem_map.mp hicon
    exact ⟨_, _, rfl⟩

/-- Icons and the frame leave monitors and windows in their places. -/
theorem prepared_place : (d.prepared program desktop w).monitors = desktop.monitors ∧
    (d.prepared program desktop w).place? w = desktop.place? w := by
  let SamePlace (after : Desktop) : Prop :=
    after.monitors = desktop.monitors ∧ after.place? w = desktop.place? w
  have hicons : SamePlace (desktop.performAll (d.ownIconRequests program desktop w)) := by
    refine Desktop.performAll_induction ⟨rfl, rfl⟩ ?_
    intro r hr before hbefore
    rcases d.ownIconRequests_cases program desktop w hr with ⟨slot, icon, rfl⟩ | ⟨path, rfl⟩
    · refine ⟨hbefore.1, Eq.trans ?_ hbefore.2⟩
      exact before.view_setIcon Window.place w w fun window => window.place_setIcon icon slot
    · exact hbefore
  refine ⟨hicons.1, Eq.trans ?_ hicons.2⟩
  exact Desktop.view_changeWindow Window.place _ w w (fun _ => rfl) fun _ _ => rfl

/-- Icons leave styles alone. -/
@[simp] theorem style_ownIcons :
    (desktop.performAll (d.ownIconRequests program desktop w)).style w = desktop.style w := by
  refine Desktop.performAll_induction (motive := fun after => after.style w = desktop.style w) rfl ?_
  intro r hr before hbefore
  rcases d.ownIconRequests_cases program desktop w hr with ⟨slot, icon, rfl⟩ | ⟨path, rfl⟩
  · refine (congrArg (fun style : Option WindowStyle => style.getD .none) ?_).trans hbefore
    exact before.view_setIcon Window.style w w fun window => window.style_setIcon icon slot
  · exact hbefore

/-- So all that preparing a window asks for can be told beforehand. -/
theorem prepareRequests_eq : d.prepareRequests program desktop w =
    d.ownIconRequests program desktop w ++ desktop.fixStyleRequests w ++ desktop.centerRequests w := by
  obtain ⟨hmonitors, hplace⟩ := d.prepared_place program desktop w
  have hcenter := (Desktop.center_congr hmonitors hplace).2
  have hstyle := d.style_ownIcons program desktop w
  rw [← hcenter]
  simp only [prepareRequests, prepared, Desktop.fixStyleRequests, hstyle]

end Decorator

theorem centerReporting_events (w : WindowHandle) (d : Desktop) :
    (centerReporting w d).1 = d.centerEvents w := by
  rw [centerReporting, Desktop.centerEvents, bind_apply]
  cases (center w d).1 <;> rfl

/-- The icons and the attempt to center have their events one after the other, and the attempt goes
as it would have gone at first. -/
theorem Decorator.prepare_events (d : Decorator) (program : ProgramFile) (desktop : Desktop)
    (w : WindowHandle) : (d.prepare program w desktop).1.2 =
      d.ownIconEvents program desktop ++ desktop.centerEvents w := by
  obtain ⟨-, hdesktop⟩ := d.applyOwnIcons_apply program desktop w
  obtain ⟨hmonitors, hplace⟩ := d.prepared_place program desktop w
  have hcenter : (d.prepared program desktop w).centerEvents w = desktop.centerEvents w := by
    simp only [Desktop.centerEvents, (Desktop.center_congr hmonitors hplace).1]
  rw [← hcenter, ← d.applyOwnIcons_events program desktop w]
  simp only [prepare, bind_apply, hdesktop, Desktop.removeResizeAffordances_requests,
    centerReporting_events]
  rfl

/-! ## Actions -/

namespace Adapter

/-- The answer to an action. -/
def answer (a : Adapter) (program : ProgramFile) (desktop : Desktop) :
    DecoratorAction → ActionResult
  | .width w =>
      match desktop.bounds w with
      | .ok bounds => .size bounds.width
      | .error _ => .size a.decorator.settings.fallbackWidth
  | .height w =>
      match desktop.bounds w with
      | .ok bounds => .size bounds.height
      | .error _ => .size a.decorator.settings.fallbackHeight
  | .center w =>
      match a.kind with
      | .plain => .centering (WindowDecor.center w desktop).1
      | .reporting => .done
  | .plainCenter w => .centering (WindowDecor.center w desktop).1
  | .loadIconsFrom path =>
      match a.kind with
      | .plain => .count (desktop.iconsAt path).count
      | .reporting => .notOffered
  | .loadOwnIcons =>
      match a.kind with
      | .plain => .notOffered
      | .reporting => .count (desktop.countAt (a.decorator.iconSource program))
  | .prepare _ =>
      match a.kind with
      | .plain => .notOffered
      | .reporting => .done
  | _ => .done

/-- What is logged of an action. -/
def events (a : Adapter) (program : ProgramFile) (desktop : Desktop) :
    DecoratorAction → List LogEvent
  | .center w =>
      match a.kind with
      | .plain => []
      | .reporting => desktop.centerEvents w
  | .applyIcons _ =>
      match a.kind with
      | .plain => []
      | .reporting => a.decorator.ownIconEvents program desktop
  | .loadOwnIcons =>
      match a.kind with
      | .plain => []
      | .reporting => a.decorator.loadEvents program desktop
  | .prepare w =>
      match a.kind with
      | .plain => []
      | .reporting => a.decorator.ownIconEvents program desktop ++ desktop.centerEvents w
  | _ => []

variable (a : Adapter) (program : ProgramFile) (action : DecoratorAction) (desktop : Desktop)

/-- The answer to an action, and what is logged. -/
theorem perform_answer : (a.perform program action desktop).1.2 =
    (a.answer program desktop action, a.events program desktop action) := by
  obtain ⟨kind, d⟩ := a
  cases action with
  | width w =>
    simp only [perform, Decorator.width, answer, bind_apply, Desktop.bounds_apply]
    cases desktop.bounds w <;> rfl
  | height w =>
    simp only [perform, Decorator.height, answer, bind_apply, Desktop.bounds_apply]
    cases desktop.bounds w <;> rfl
  | center w =>
    cases kind with
    | plain => rfl
    | reporting => exact congrArg (Prod.mk _) (centerReporting_events w desktop)
  | applyIcons w =>
    cases kind with
    | plain => rfl
    | reporting => exact congrArg (Prod.mk _) (d.applyOwnIcons_events program desktop w)
  | loadIconsFrom path => cases kind <;> rfl
  | loadOwnIcons =>
    cases kind with
    | plain => rfl
    | reporting =>
      have hload := d.loadOwnIcons_answer program desktop
      exact congrArg (fun answer => (ActionResult.count answer.1, answer.2)) hload
  | prepare w =>
    cases kind with
    | plain => rfl
    | reporting => exact congrArg (Prod.mk _) (d.prepare_events program desktop w)
  | _ => rfl

/-- **All that an action does**: the adapter that it leaves, its answer, its events, and its
requests. -/
theorem perform_eq : a.perform program action desktop =
    ((a.next program desktop action, a.answer program desktop action,
        a.events program desktop action),
      desktop.performAll (a.requests program desktop action)) := by
  obtain ⟨hnext, hdesktop⟩ := a.perform_apply program action desktop
  exact Prod.ext (Prod.ext hnext (a.perform_answer program action desktop)) hdesktop

end Adapter

/-- All that asking an adapter comes to. -/
theorem Session.step_adapter_eq {s : Session} {index : Nat} {a : Adapter}
    (ha : s.adapters[index]? = some a) (action : DecoratorAction) :
    s.step (.adapter index action) =
      ({ s with
          desktop := s.desktop.performAll (a.requests s.program s.desktop action)
          adapters := s.adapters.set index (a.next s.program s.desktop action) },
        { result := .action (a.answer s.program s.desktop action)
          events := a.events s.program s.desktop action }) := by
  simp only [step, ha, a.perform_eq]

end WindowDecor
