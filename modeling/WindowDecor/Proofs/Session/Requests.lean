import WindowDecor.Proofs.Centering.Desktop
import WindowDecor.Session.Basic

/-!
# What adapters ask of the desktop

An adapter reaches the desktop only through the calls of a window manager, and with few of them can
it change anything.  Those are its *requests*.  Here every operation is given the list of requests
that it comes to, read off the desktop that it starts from, and with them

* **`Adapter.perform_apply`** — an action does to the desktop what its requests do, one after the
  other, and leaves the adapter `Adapter.next`;
* `Adapter.isRequestFor_of_mem_requests` — each request is about the window that the adapter is asked
  about, or looks for icons;
* **`Session.step_desktop`** — what any step does to the desktop is one action or a list of requests.

A property of desktops that every action keeps is thus kept by every step, and nothing has to be
said of adapters again.
-/

namespace WindowDecor

/-! ## Requests -/

/-- Whether an action is a request: something that a window manager can be asked to do with the
window `target`, or to look for icons. -/
def DesktopAction.isRequestFor (target : Option WindowHandle) : DesktopAction → Bool
  | .move w _ | .resize w _ _ | .flash w _ | .setIcon w _ _ | .setStyle w _ | .setProgress w _ =>
      decide (target = some w)
  | .extractIcons _ => true
  | _ => false

/-- The window that an adapter is asked about. -/
def DecoratorAction.target? : DecoratorAction → Option WindowHandle
  | .width w | .height w | .resize w _ _ | .flash w | .setProgress w _ | .center w | .plainCenter w
  | .fixStyle w | .applyIcons w | .plainApplyIcons w | .prepare w => some w
  | .loadIconsFrom _ | .loadOwnIcons => none

namespace Desktop

/-- The desktop after a list of actions. -/
def performAll (d : Desktop) (actions : List DesktopAction) : Desktop :=
  actions.foldl (fun d action => (d.perform action).1) d

@[simp] theorem performAll_cons (d : Desktop) (action : DesktopAction) (rest : List DesktopAction) :
    d.performAll (action :: rest) = (d.perform action).1.performAll rest := rfl

/-- Requests of two lists are carried out one list after the other. -/
@[simp] theorem performAll_append (d : Desktop) (actions later : List DesktopAction) :
    d.performAll (actions ++ later) = (d.performAll actions).performAll later :=
  List.foldl_append

/-- What every action of a list keeps, the list keeps. -/
theorem performAll_induction {motive : Desktop → Prop} {actions : List DesktopAction}
    {d : Desktop} (hd : motive d)
    (hkeep : ∀ action ∈ actions, ∀ d, motive d → motive (d.perform action).1) :
    motive (d.performAll actions) := by
  induction actions generalizing d with
  | nil => exact hd
  | cons action rest ih =>
    exact ih (hkeep action (by simp) d hd) fun a ha => hkeep a (by simp [ha])

/-! ## Centering and fixing the frame -/

/-- The move that centering a window comes to, where the three readings succeed. -/
def centerRequests (d : Desktop) (w : WindowHandle) : List DesktopAction :=
  match d.monitorOf? w with
  | none => []
  | some m =>
    match d.workArea m, d.bounds w with
    | .ok area, .ok bounds => [.move w (area.centeredOrigin bounds.width bounds.height)]
    | _, _ => []

/-- The style that a window is given to fix its frame. -/
def fixStyleRequests (d : Desktop) (w : WindowHandle) : List DesktopAction :=
  [.setStyle w (d.style w).withoutResizeAffordances]

/-- Centering asks for a move, if anything. -/
theorem eq_move_of_mem_centerRequests {d : Desktop} {w : WindowHandle} {r : DesktopAction}
    (hr : r ∈ d.centerRequests w) : ∃ origin, r = .move w origin := by
  simp only [centerRequests] at hr
  split at hr
  · cases hr
  · split at hr
    · exact ⟨_, List.mem_singleton.mp hr⟩
    · cases hr

/-- Centering comes to its requests. -/
@[simp] theorem center_requests (d : Desktop) (w : WindowHandle) :
    (center w d).2 = d.performAll (d.centerRequests w) := by
  have hcases := d.center_cases w
  generalize center w d = result at hcases
  cases hcases with
  | noMonitor hm => simp only [centerRequests, hm]; rfl
  | noWorkArea hm harea => simp only [centerRequests, hm, harea]; rfl
  | noBounds hm harea hbounds => simp only [centerRequests, hm, harea, hbounds]; rfl
  | moved hm harea hbounds => simp only [centerRequests, hm, harea, hbounds]; rfl

/-- Logging makes no difference to what is asked for. -/
@[simp] theorem centerReporting_requests (d : Desktop) (w : WindowHandle) :
    (centerReporting w d).2 = d.performAll (d.centerRequests w) := by
  rw [← center_requests, centerReporting, bind_apply]
  cases (center w d).1 <;> rfl

@[simp] theorem removeResizeAffordances_requests (d : Desktop) (w : WindowHandle) :
    (removeResizeAffordances w d).2 = d.performAll (d.fixStyleRequests w) := rfl

end Desktop

/-! ## Icons -/

/-- Every icon of a list is one request. -/
@[simp]
theorem setIcons_requests (w : WindowHandle) (icons : List (IconClass × IconHandle)) (d : Desktop) :
    (setIcons w icons d).2 = d.performAll (icons.map fun a => .setIcon w a.1 a.2) := by
  induction icons generalizing d with
  | nil => rfl
  | cons assignment rest ih =>
    rw [setIcons, bind_apply, ih]
    rfl

namespace Decorator

/-- An icon for each slot, as far as there are icons at hand. -/
def iconRequests (d : Decorator) (w : WindowHandle) : List DesktopAction :=
  d.icons.assignments.map fun a => .setIcon w a.1 a.2

/-- The look into the file that icons come from, if it is known. -/
def loadRequests (d : Decorator) (program : ProgramFile) : List DesktopAction :=
  match d.iconSource program with
  | .error _ => []
  | .ok source => [.extractIcons source]

/-- The decorator once it has loaded its own icons. -/
def loaded (d : Decorator) (program : ProgramFile) (desktop : Desktop) : Decorator :=
  match d.iconSource program with
  | .error _ => d.giveUpIcons
  | .ok source => { d with icons := d.icons.store (desktop.iconsAt source).icons }

/-- The decorator once it has tried to load its own icons, now or before. -/
def ready (d : Decorator) (program : ProgramFile) (desktop : Desktop) : Decorator :=
  if d.icons.isLoaded then d else d.loaded program desktop

/-- The icons at hand, with a load before them if there was none yet. -/
def ownIconRequests (d : Decorator) (program : ProgramFile) (desktop : Desktop)
    (w : WindowHandle) : List DesktopAction :=
  (if d.icons.isLoaded then [] else d.loadRequests program) ++
    (d.ready program desktop).iconRequests w

/-- Icons, frame and position, each asked for on the desktop that the one before left. -/
def prepareRequests (d : Decorator) (program : ProgramFile) (desktop : Desktop)
    (w : WindowHandle) : List DesktopAction :=
  let withIcons := desktop.performAll (d.ownIconRequests program desktop w)
  let withFrame := withIcons.performAll (withIcons.fixStyleRequests w)
  d.ownIconRequests program desktop w ++ withIcons.fixStyleRequests w ++ withFrame.centerRequests w

variable (d : Decorator) (program : ProgramFile) (desktop : Desktop) (w : WindowHandle)

@[simp]
theorem applyIcons_requests : (d.applyIcons w desktop).2 = desktop.performAll (d.iconRequests w) :=
  setIcons_requests w _ desktop

/-- What loading leaves: a decorator that has loaded, and a desktop that was asked. -/
theorem loadOwnIcons_apply :
    (d.loadOwnIcons program desktop).1.1 = d.loaded program desktop ∧
      (d.loadOwnIcons program desktop).2 = desktop.performAll (d.loadRequests program) := by
  simp only [loadOwnIcons, loaded, loadRequests]
  cases d.iconSource program with
  | error reason => exact ⟨rfl, rfl⟩
  | ok source => exact ⟨rfl, rfl⟩

theorem applyOwnIcons_apply :
    (d.applyOwnIcons program w desktop).1.1 = d.ready program desktop ∧
      (d.applyOwnIcons program w desktop).2 =
        desktop.performAll (d.ownIconRequests program desktop w) := by
  simp only [applyOwnIcons, ready, ownIconRequests]
  cases d.icons.isLoaded with
  | true =>
    simp only [if_true, bind_apply, applyIcons_requests]
    exact ⟨rfl, rfl⟩
  | false =>
    obtain ⟨hnext, hdesktop⟩ := loadOwnIcons_apply d program desktop
    simp only [Bool.false_eq_true, if_false, bind_apply, applyIcons_requests, hdesktop, hnext,
      Desktop.performAll_append]
    exact ⟨rfl, rfl⟩

theorem prepare_apply :
    (d.prepare program w desktop).1.1 = d.ready program desktop ∧
      (d.prepare program w desktop).2 =
        desktop.performAll (d.prepareRequests program desktop w) := by
  obtain ⟨hnext, hdesktop⟩ := applyOwnIcons_apply d program desktop w
  simp only [prepare, bind_apply, Desktop.removeResizeAffordances_requests,
    Desktop.centerReporting_requests, hdesktop, prepareRequests, Desktop.performAll_append]
  exact ⟨hnext, rfl⟩

end Decorator

/-! ## Adapters and steps -/

namespace Adapter

/-- What an action comes to on a desktop. -/
def requests (a : Adapter) (program : ProgramFile) (desktop : Desktop) :
    DecoratorAction → List DesktopAction
  | .width _ | .height _ => []
  | .resize w width height => [.resize w width height]
  | .flash w => [.flash w a.decorator.settings.flashCount]
  | .setProgress bar state => [.setProgress bar state]
  | .center w | .plainCenter w => desktop.centerRequests w
  | .fixStyle w => desktop.fixStyleRequests w
  | .applyIcons w =>
      match a.kind with
      | .plain => a.decorator.iconRequests w
      | .reporting => a.decorator.ownIconRequests program desktop w
  | .plainApplyIcons w => a.decorator.iconRequests w
  | .loadIconsFrom path =>
      match a.kind with
      | .plain => [.extractIcons path]
      | .reporting => []
  | .loadOwnIcons =>
      match a.kind with
      | .plain => []
      | .reporting => a.decorator.loadRequests program
  | .prepare w =>
      match a.kind with
      | .plain => []
      | .reporting => a.decorator.prepareRequests program desktop w

/-- The adapter after an action.  Only its icons can change. -/
def next (a : Adapter) (program : ProgramFile) (desktop : Desktop) : DecoratorAction → Adapter
  | .applyIcons _ | .prepare _ =>
      match a.kind with
      | .plain => a
      | .reporting => { a with decorator := a.decorator.ready program desktop }
  | .loadIconsFrom path =>
      match a.kind with
      | .plain =>
          { a with decorator.icons := a.decorator.icons.store (desktop.iconsAt path).icons }
      | .reporting => a
  | .loadOwnIcons =>
      match a.kind with
      | .plain => a
      | .reporting => { a with decorator := a.decorator.loaded program desktop }
  | _ => a

/-- **What an action does**: its requests, one after the other, and the adapter's own change. -/
theorem perform_apply (a : Adapter) (program : ProgramFile) (action : DecoratorAction)
    (desktop : Desktop) :
    (a.perform program action desktop).1.1 = a.next program desktop action ∧
      (a.perform program action desktop).2 =
        desktop.performAll (a.requests program desktop action) := by
  obtain ⟨kind, d⟩ := a
  cases action with
  | width w =>
    simp only [perform, Decorator.width, bind_apply]
    cases hbounds : (WindowManager.bounds w desktop).1 <;> exact ⟨rfl, rfl⟩
  | height w =>
    simp only [perform, Decorator.height, bind_apply]
    cases hbounds : (WindowManager.bounds w desktop).1 <;> exact ⟨rfl, rfl⟩
  | resize w width height => exact ⟨rfl, rfl⟩
  | flash w => exact ⟨rfl, rfl⟩
  | setProgress bar state => exact ⟨rfl, rfl⟩
  | center w =>
    cases kind with
    | plain => exact ⟨rfl, desktop.center_requests w⟩
    | reporting => exact ⟨rfl, desktop.centerReporting_requests w⟩
  | plainCenter w => exact ⟨rfl, desktop.center_requests w⟩
  | fixStyle w => exact ⟨rfl, rfl⟩
  | applyIcons w =>
    cases kind with
    | plain => exact ⟨rfl, d.applyIcons_requests desktop w⟩
    | reporting =>
      obtain ⟨hnext, hdesktop⟩ := d.applyOwnIcons_apply program desktop w
      exact ⟨congrArg (Adapter.mk .reporting) hnext, hdesktop⟩
  | plainApplyIcons w => exact ⟨rfl, d.applyIcons_requests desktop w⟩
  | loadIconsFrom path => cases kind <;> exact ⟨rfl, rfl⟩
  | loadOwnIcons =>
    cases kind with
    | plain => exact ⟨rfl, rfl⟩
    | reporting =>
      obtain ⟨hnext, hdesktop⟩ := d.loadOwnIcons_apply program desktop
      exact ⟨congrArg (Adapter.mk .reporting) hnext, hdesktop⟩
  | prepare w =>
    cases kind with
    | plain => exact ⟨rfl, rfl⟩
    | reporting =>
      obtain ⟨hnext, hdesktop⟩ := d.prepare_apply program desktop w
      exact ⟨congrArg (Adapter.mk .reporting) hnext, hdesktop⟩

end Adapter

/-! ## Whom requests are about -/

theorem Desktop.isRequestFor_of_mem_centerRequests {d : Desktop} {w : WindowHandle}
    {r : DesktopAction} (hr : r ∈ d.centerRequests w) : r.isRequestFor (some w) := by
  obtain ⟨origin, rfl⟩ := eq_move_of_mem_centerRequests hr
  simp [DesktopAction.isRequestFor]

theorem Desktop.isRequestFor_of_mem_fixStyleRequests {d : Desktop} {w : WindowHandle}
    {r : DesktopAction} (hr : r ∈ d.fixStyleRequests w) : r.isRequestFor (some w) := by
  obtain rfl := List.mem_singleton.mp hr
  simp [DesktopAction.isRequestFor]

namespace Decorator

variable {d : Decorator} {program : ProgramFile} {desktop : Desktop} {w : WindowHandle}
  {r : DesktopAction}

theorem isRequestFor_of_mem_iconRequests (hr : r ∈ d.iconRequests w) :
    r.isRequestFor (some w) := by
  obtain ⟨assignment, -, rfl⟩ := List.mem_map.mp hr
  simp [DesktopAction.isRequestFor]

/-- Looking for icons is about no window, and so allowed for any. -/
theorem isRequestFor_of_mem_loadRequests {target : Option WindowHandle}
    (hr : r ∈ d.loadRequests program) : r.isRequestFor target := by
  simp only [loadRequests] at hr
  split at hr
  · cases hr
  · obtain rfl := List.mem_singleton.mp hr
    rfl

theorem isRequestFor_of_mem_ownIconRequests (hr : r ∈ d.ownIconRequests program desktop w) :
    r.isRequestFor (some w) := by
  rcases List.mem_append.mp hr with hload | hicon
  · split at hload
    · cases hload
    · exact isRequestFor_of_mem_loadRequests hload
  · exact isRequestFor_of_mem_iconRequests hicon

/-- All three parts of preparing are about the one window. -/
theorem isRequestFor_of_mem_prepareRequests (hr : r ∈ d.prepareRequests program desktop w) :
    r.isRequestFor (some w) := by
  simp only [prepareRequests, List.mem_append] at hr
  rcases hr with (hicon | hframe) | hcenter
  · exact isRequestFor_of_mem_ownIconRequests hicon
  · exact Desktop.isRequestFor_of_mem_fixStyleRequests hframe
  · exact Desktop.isRequestFor_of_mem_centerRequests hcenter

end Decorator

/-- **An adapter acts only for the window that it is asked about.** -/
theorem Adapter.isRequestFor_of_mem_requests {a : Adapter} {program : ProgramFile}
    {desktop : Desktop} {action : DecoratorAction} {r : DesktopAction}
    (hr : r ∈ a.requests program desktop action) : r.isRequestFor action.target? := by
  obtain ⟨kind, d⟩ := a
  cases action with
  | width w => cases hr
  | height w => cases hr
  | resize w width height => simp_all [requests, DesktopAction.isRequestFor, DecoratorAction.target?]
  | flash w => simp_all [requests, DesktopAction.isRequestFor, DecoratorAction.target?]
  | setProgress bar state =>
    simp_all [requests, DesktopAction.isRequestFor, DecoratorAction.target?]
  | center w => exact Desktop.isRequestFor_of_mem_centerRequests hr
  | plainCenter w => exact Desktop.isRequestFor_of_mem_centerRequests hr
  | fixStyle w => exact Desktop.isRequestFor_of_mem_fixStyleRequests hr
  | applyIcons w =>
    cases kind with
    | plain => exact Decorator.isRequestFor_of_mem_iconRequests hr
    | reporting => exact Decorator.isRequestFor_of_mem_ownIconRequests hr
  | plainApplyIcons w => exact Decorator.isRequestFor_of_mem_iconRequests hr
  | loadIconsFrom path =>
    cases kind with
    | plain => simp_all [requests, DesktopAction.isRequestFor]
    | reporting => cases hr
  | loadOwnIcons =>
    cases kind with
    | plain => cases hr
    | reporting => exact Decorator.isRequestFor_of_mem_loadRequests hr
  | prepare w =>
    cases kind with
    | plain => cases hr
    | reporting => exact Decorator.isRequestFor_of_mem_prepareRequests hr

namespace Session

/-- What asking an adapter does to a session. -/
theorem step_adapter {s : Session} {index : Nat} {a : Adapter} (ha : s.adapters[index]? = some a)
    (action : DecoratorAction) :
    (s.step (.adapter index action)).1 =
      { s with
        desktop := s.desktop.performAll (a.requests s.program s.desktop action)
        adapters := s.adapters.set index (a.next s.program s.desktop action) } := by
  obtain ⟨hnext, hdesktop⟩ := a.perform_apply s.program action s.desktop
  simp only [step, ha]
  rw [← hnext, ← hdesktop]
  rfl

/-- **What a step does to the desktop**: its own action, if it is one on the desktop, and else
requests for the window that an adapter is asked about, or nothing. -/
theorem step_desktop (s : Session) (step : Step) :
    (∃ action, step = .desktop action ∧ (s.step step).1.desktop = (s.desktop.perform action).1) ∨
      (∃ index action requests, step = .adapter index action ∧
        (∀ r ∈ requests, r.isRequestFor action.target?) ∧
          (s.step step).1.desktop = s.desktop.performAll requests) ∨
      ((∀ action, step ≠ .desktop action) ∧ (s.step step).1.desktop = s.desktop) := by
  cases step with
  | desktop action => exact .inl ⟨action, rfl, rfl⟩
  | newAdapter kind settings => cases settings <;> exact .inr (.inr ⟨by simp, rfl⟩)
  | adapter index action =>
    cases ha : s.adapters[index]? with
    | none =>
      simp only [Session.step, ha]
      exact .inr (.inr ⟨by simp, trivial⟩)
    | some a =>
      refine .inr (.inl ⟨index, action, a.requests s.program s.desktop action, rfl, ?_, ?_⟩)
      · exact fun r hr => Adapter.isRequestFor_of_mem_requests hr
      · rw [step_adapter ha]
  | settings index => exact .inr (.inr ⟨by simp, rfl⟩)
  | icons index => exact .inr (.inr ⟨by simp, rfl⟩)
  | window index w => exact .inr (.inr ⟨by simp, rfl⟩)

end Session

end WindowDecor
