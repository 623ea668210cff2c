import WindowDecor.Proofs.Session.Answers
import WindowDecor.Proofs.Session.Changes
import WindowDecor.Proofs.Session.History
import WindowDecor.Proofs.Sizes.Moderate

/-!
# Sizes are what was set

A session in which monitors and windows start out near the origin, and windows are not made too
large, computes like one with unbounded coordinates: a window has the size that it was given last,
whatever is done to it or to other windows in between.

* `Step.Moderate` — what may be done: monitors and windows within `2 ^ 28` of zero, sizes within
  `2 ^ 29`.
* `Adapter.moderate_of_mem_requests` — on a moderate desktop adapters ask for moderate things only;
  for `prepare` this is said of the desktop that the icons and the frame leave.
* `Session.stages` — the desktops that a step goes through on its way.
* **`Session.moderate_step`**, `Session.size?_step` — one step; `moderate_after` and `size?_after` —
  whole runs.
* **`Session.sizesExact_after`** — what follows for sizes (`Session.SizesExact`).
-/

namespace WindowDecor

/-! ## What adapters ask for -/

/-- An action that asks for no large size. -/
def DecoratorAction.Moderate : DecoratorAction → Prop
  | .resize _ x y => UpTo (2 ^ 29) x.toInt ∧ UpTo (2 ^ 29) y.toInt
  | _ => True

instance : (action : DecoratorAction) → Decidable action.Moderate
  | .resize _ x y => inferInstanceAs (Decidable (UpTo (2 ^ 29) x.toInt ∧ UpTo (2 ^ 29) y.toInt))
  | .width _ | .height _ | .flash _ | .setProgress _ _ | .center _ | .plainCenter _ | .fixStyle _
  | .applyIcons _ | .plainApplyIcons _ | .loadIconsFrom _ | .loadOwnIcons | .prepare _ =>
      isTrue trivial

/-- An action that gives a window another size. -/
def DecoratorAction.endsSize (w : WindowHandle) : DecoratorAction → Bool
  | .resize v _ _ => decide (v = w)
  | _ => false

/-- A request that brings in nothing large or far away, and changes no size. -/
def DesktopAction.Gentle (r : DesktopAction) : Prop := r.Moderate ∧ ∀ w, r.endsSize w = false

/-- A work area that is read on a moderate desktop is small. -/
theorem Desktop.Moderate.small_workArea {d : Desktop} (h : d.Moderate) {m : MonitorHandle}
    {area : Rect} (harea : d.workArea m = .ok area) : area.Small := by
  simp only [Desktop.workArea] at harea
  split at harea
  · cases harea
  · next monitor hmonitor =>
    split at harea
    · cases harea
    · cases harea
      exact h.areas monitor (Desktop.mem_of_monitor? hmonitor)

/-- **Windows are centered at moderate origins.** -/
theorem Desktop.Moderate.gentle_of_mem_centerRequests {d : Desktop} (h : d.Moderate)
    {w : WindowHandle} : ∀ r ∈ d.centerRequests w, r.Gentle := by
  intro r hr
  simp only [Desktop.centerRequests] at hr
  split at hr
  · cases hr
  · next m hm =>
    split at hr
    · next area bounds harea hbounds =>
      obtain rfl := List.mem_singleton.mp hr
      obtain ⟨window, hwindow, -, rfl⟩ := Desktop.bounds_eq_ok_iff.mp hbounds
      have hmoderate := h.bounds window (Desktop.mem_of_window? hwindow)
      exact ⟨hmoderate.centeredOrigin (h.small_workArea harea), fun _ => rfl⟩
    · cases hr

theorem Desktop.gentle_of_mem_fixStyleRequests {d : Desktop} {w : WindowHandle} :
    ∀ r ∈ d.fixStyleRequests w, r.Gentle := by
  intro r hr
  obtain rfl := List.mem_singleton.mp hr
  exact ⟨trivial, fun _ => rfl⟩

namespace Decorator

variable {d : Decorator} {program : ProgramFile} {desktop : Desktop} {w : WindowHandle}

theorem gentle_of_mem_iconRequests : ∀ r ∈ d.iconRequests w, r.Gentle := by
  intro r hr
  obtain ⟨assignment, -, rfl⟩ := List.mem_map.mp hr
  exact ⟨trivial, fun _ => rfl⟩

theorem gentle_of_mem_loadRequests : ∀ r ∈ d.loadRequests program, r.Gentle := by
  intro r hr
  simp only [loadRequests] at hr
  split at hr
  · cases hr
  · obtain rfl := List.mem_singleton.mp hr
    exact ⟨trivial, fun _ => rfl⟩

theorem gentle_of_mem_ownIconRequests : ∀ r ∈ d.ownIconRequests program desktop w, r.Gentle := by
  intro r hr
  rcases d.ownIconRequests_cases program desktop w hr with ⟨slot, icon, rfl⟩ | ⟨path, rfl⟩
  · exact ⟨trivial, fun _ => rfl⟩
  · exact ⟨trivial, fun _ => rfl⟩

/-- Preparing a window of a moderate desktop is gentle. -/
theorem gentle_of_mem_prepareRequests (h : desktop.Moderate) :
    ∀ r ∈ d.prepareRequests program desktop w, r.Gentle := by
  intro r hr
  simp only [prepareRequests, List.mem_append] at hr
  rcases hr with (hicon | hframe) | hcenter
  · exact gentle_of_mem_ownIconRequests r hicon
  · exact Desktop.gentle_of_mem_fixStyleRequests r hframe
  · -- the window is centered on the desktop that its icons and its frame left
    have hicons : (desktop.performAll (d.ownIconRequests program desktop w)).Moderate :=
      h.performAll fun r hr => (gentle_of_mem_ownIconRequests r hr).1
    refine Desktop.Moderate.gentle_of_mem_centerRequests ?_ r hcenter
    exact hicons.performAll fun r hr => (Desktop.gentle_of_mem_fixStyleRequests r hr).1

end Decorator

/-- **What adapters ask for is moderate**, and changes a size only where that is asked of them. -/
theorem Adapter.moderate_of_mem_requests {desktop : Desktop} (h : desktop.Moderate) (a : Adapter)
    (program : ProgramFile) {action : DecoratorAction} (haction : action.Moderate) :
    ∀ r ∈ a.requests program desktop action,
      r.Moderate ∧ ∀ w, action.endsSize w = false → r.endsSize w = false := by
  have hgentle : ∀ {requests : List DesktopAction}, (∀ r ∈ requests, r.Gentle) → ∀ r ∈ requests,
      r.Moderate ∧ ∀ w, action.endsSize w = false → r.endsSize w = false :=
    fun hrequests r hr => ⟨(hrequests r hr).1, fun w _ => (hrequests r hr).2 w⟩
  obtain ⟨kind, d⟩ := a
  cases action with
  | width w => exact hgentle (by simp [requests])
  | height w => exact hgentle (by simp [requests])
  | resize w width height =>
    intro r hr
    obtain rfl := List.mem_singleton.mp hr
    exact ⟨haction, fun _ hkeeps => hkeeps⟩
  | flash w => exact hgentle (List.forall_mem_singleton.mpr ⟨trivial, fun _ => rfl⟩)
  | setProgress bar state => exact hgentle (List.forall_mem_singleton.mpr ⟨trivial, fun _ => rfl⟩)
  | center w => exact hgentle h.gentle_of_mem_centerRequests
  | plainCenter w => exact hgentle h.gentle_of_mem_centerRequests
  | fixStyle w => exact hgentle Desktop.gentle_of_mem_fixStyleRequests
  | applyIcons w =>
    cases kind with
    | plain => exact hgentle Decorator.gentle_of_mem_iconRequests
    | reporting => exact hgentle Decorator.gentle_of_mem_ownIconRequests
  | plainApplyIcons w => exact hgentle Decorator.gentle_of_mem_iconRequests
  | loadIconsFrom path =>
    cases kind with
    | plain => exact hgentle (List.forall_mem_singleton.mpr ⟨trivial, fun _ => rfl⟩)
    | reporting => exact hgentle (by simp [requests])
  | loadOwnIcons =>
    cases kind with
    | plain => exact hgentle (by simp [requests])
    | reporting => exact hgentle Decorator.gentle_of_mem_loadRequests
  | prepare w =>
    cases kind with
    | plain => exact hgentle (by simp [requests])
    | reporting => exact hgentle (Decorator.gentle_of_mem_prepareRequests h)

/-! ## Steps -/

/-- A step whose action, if it has one, is moderate. -/
def Step.Moderate : Step → Prop
  | .desktop action => action.Moderate
  | .adapter _ action => action.Moderate
  | _ => True

instance : (step : Step) → Decidable step.Moderate
  | .desktop action => inferInstanceAs (Decidable action.Moderate)
  | .adapter _ action => inferInstanceAs (Decidable action.Moderate)
  | .newAdapter _ _ | .settings _ | .icons _ | .window _ _ => isTrue trivial

/-- A step that gives a window another size or takes it away. -/
def Step.endsSize (w : WindowHandle) : Step → Bool
  | .desktop action => action.endsSize w
  | .adapter _ action => action.endsSize w
  | _ => false

namespace Desktop

/-- A desktop, and what it is after each of a list of actions. -/
def stages (d : Desktop) : List DesktopAction → List Desktop
  | [] => [d]
  | action :: rest => d :: (d.perform action).1.stages rest

/-- The desktop is moderate after each of the actions, and not only in the end. -/
theorem Moderate.stages {d : Desktop} {actions : List DesktopAction} (h : d.Moderate)
    (hactions : ∀ action ∈ actions, action.Moderate) : ∀ d' ∈ d.stages actions, d'.Moderate := by
  induction actions generalizing d with
  | nil =>
    intro d' hd'
    obtain rfl := List.mem_singleton.mp hd'
    exact h
  | cons action rest ih =>
    intro d' hd'
    rcases List.mem_cons.mp hd' with rfl | hlater
    · exact h
    · exact ih (h.perform (hactions action List.mem_cons_self))
        (fun a ha => hactions a (List.mem_cons_of_mem _ ha)) d' hlater

end Desktop

namespace Session

/-- The desktops that a step goes through: before and after each of its changes. -/
def stages (s : Session) (step : Step) : List Desktop := s.desktop.stages (s.changes step)

variable {s : Session} {step : Step} {w : WindowHandle}

/-- What a moderate step changes is moderate, and ends no size that the step does not end. -/
theorem moderate_of_mem_changes (h : s.desktop.Moderate) (hstep : step.Moderate) :
    ∀ r ∈ s.changes step, r.Moderate ∧ ∀ w, step.endsSize w = false → r.endsSize w = false := by
  cases step with
  | desktop action => exact List.forall_mem_singleton.mpr ⟨hstep, fun _ hkeeps => hkeeps⟩
  | adapter index action =>
    cases ha : s.adapters[index]? with
    | none => simp [changes, ha]
    | some a =>
      simp only [changes, ha]
      exact a.moderate_of_mem_requests h s.program hstep
  | _ => simp [changes]

/-- **A moderate step keeps the desktop moderate.** -/
theorem moderate_step (h : s.desktop.Moderate) (hstep : step.Moderate) :
    (s.step step).1.desktop.Moderate := by
  rw [desktop_step]
  exact h.performAll fun r hr => (moderate_of_mem_changes h hstep r hr).1

/-- A moderate step keeps a window's size, unless it sets it or destroys the window. -/
theorem size?_step (h : s.desktop.Moderate) (hstep : step.Moderate)
    (hkeeps : step.endsSize w = false) {size : Int32 × Int32}
    (hsize : s.desktop.size? w = some size) : (s.step step).1.desktop.size? w = some size := by
  have hchanges := moderate_of_mem_changes h hstep
  rw [desktop_step]
  exact Desktop.Moderate.size?_performAll (fun r hr => (hchanges r hr).1)
    (fun r hr => (hchanges r hr).2 w hkeeps) h hsize

/-- **A moderate run leaves a moderate desktop.** -/
theorem moderate_after {steps : List Step} (h : s.desktop.Moderate)
    (hsteps : ∀ step ∈ steps, step.Moderate) : (s.after steps).desktop.Moderate := by
  induction steps generalizing s with
  | nil => exact h
  | cons step rest ih =>
    exact ih (moderate_step h (hsteps step List.mem_cons_self))
      fun step hstep => hsteps step (List.mem_cons_of_mem _ hstep)

/-- **Sizes survive** whatever does not set them. -/
theorem size?_after {steps : List Step} (h : s.desktop.Moderate)
    (hsteps : ∀ step ∈ steps, step.Moderate ∧ step.endsSize w = false) {size : Int32 × Int32}
    (hsize : s.desktop.size? w = some size) : (s.after steps).desktop.size? w = some size := by
  induction steps generalizing s with
  | nil => exact hsize
  | cons step rest ih =>
    obtain ⟨hmoderate, hkeeps⟩ := hsteps step List.mem_cons_self
    exact ih (moderate_step h hmoderate)
      (fun step hstep => hsteps step (List.mem_cons_of_mem _ hstep))
      (size?_step h hmoderate hkeeps hsize)

/-- What a moderate run makes sure of about sizes. -/
structure SizesExact (s : Session) (steps : List Step) : Prop where
  exact : (s.after steps).desktop.Exact
  /-- Nothing saturates in the middle of a further step either. -/
  exact_during : ∀ step, step.Moderate → ∀ d ∈ (s.after steps).stages step, d.Exact
  /-- A window that is resized stays where it is and has the size that was asked for. -/
  resized : ∀ {index a w window width height}, (s.after steps).adapters[index]? = some a →
    (s.after steps).desktop.window? w = some window →
    UpTo (2 ^ 29) width.toInt → UpTo (2 ^ 29) height.toInt →
      ∃ resized, (s.after (steps ++ [.adapter index (.resize w width height)])).desktop.window? w =
          some resized ∧
        resized.bounds.left = window.bounds.left ∧ resized.bounds.top = window.bounds.top ∧
          resized.bounds.width = width ∧ resized.bounds.height = height
  /-- Every adapter that is asked for the size of a window tells the one that it has, if its bounds
  can be read. -/
  answered : ∀ {index a w window}, (s.after steps).adapters[index]? = some a →
    (s.after steps).desktop.window? w = some window → window.boundsFail = false →
      ((s.after steps).step (.adapter index (.width w))).2.result =
          .action (.size window.bounds.width) ∧
        ((s.after steps).step (.adapter index (.height w))).2.result =
          .action (.size window.bounds.height)
  /-- The size stays, until it is set again or the window is destroyed. -/
  kept : ∀ {later w window}, (s.after steps).desktop.window? w = some window →
    (∀ step ∈ later, step.Moderate ∧ step.endsSize w = false) →
      ∃ kept, (s.after (steps ++ later)).desktop.window? w = some kept ∧
        kept.bounds.width = window.bounds.width ∧ kept.bounds.height = window.bounds.height

/-- **Nothing saturates, and sizes are what was set**, in every moderate run. -/
theorem sizesExact_after (program : ProgramFile) (steps : List Step)
    (hsteps : ∀ step ∈ steps, step.Moderate) : (new program).SizesExact steps := by
  have hmoderate : ((new program).after steps).desktop.Moderate :=
    moderate_after Desktop.moderate_empty hsteps
  constructor
  case exact => exact hmoderate.exact
  case exact_during =>
    intro step hstep d hd
    have hchanges := moderate_of_mem_changes hmoderate hstep
    exact (hmoderate.stages (fun r hr => (hchanges r hr).1) d hd).exact
  case resized =>
    intro index a w window width height ha hwindow hwidth hheight
    have hbounds := hmoderate.bounds window (Desktop.mem_of_window? hwindow)
    obtain ⟨-, hsize⟩ := hbounds.resize hwidth hheight
    refine ⟨window.resize width height, ?_, rfl, rfl, hsize⟩
    rw [after_snoc, step_adapter ha]
    have hresized := ((new program).after steps).desktop.window?_resize w w width height
    rw [if_pos rfl, hwindow] at hresized
    exact hresized
  case answered =>
    intro index a w window ha hwindow hreads
    have hbounds : ((new program).after steps).desktop.bounds w = .ok window.bounds :=
      Desktop.bounds_eq_ok_iff.mpr ⟨window, hwindow, hreads, rfl⟩
    constructor
    · simp only [step_adapter_eq ha, Adapter.answer, hbounds]
    · simp only [step_adapter_eq ha, Adapter.answer, hbounds]
  case kept =>
    intro later w window hwindow hlater
    have hsize : ((new program).after steps).desktop.size? w =
        some (window.bounds.width, window.bounds.height) := by
      rw [Desktop.size?, hwindow, Option.map_some, Window.size]
    have hkept := size?_after hmoderate hlater hsize
    obtain ⟨kept, hwindow', heq⟩ := Option.map_eq_some_iff.mp hkept
    rw [Window.size, Prod.mk.injEq] at heq
    rw [after_append]
    exact ⟨kept, hwindow', heq⟩

/-- A window that is as large as it may be, and is centered on the farthest point there may be: it
ends up outside the box in which everything was created, with its size. -/
theorem sizesExact_farAway :
    let steps : List Step :=
      [.desktop (.addMonitor ⟨⟨0, 1920⟩, ⟨0, 1080⟩⟩ ⟨⟨0x10000000, 0x10000000⟩, ⟨0, 1080⟩⟩),
        .desktop (.addWindow ⟨⟨0, 400⟩, ⟨0, 300⟩⟩ .overlapped),
        .newAdapter .reporting (.ok .default),
        .adapter 0 (.resize ⟨0x10008⟩ 0x20000000 (-300)),
        .adapter 0 (.prepare ⟨0x10008⟩)]
    (∀ step ∈ steps, step.Moderate) ∧
      ((new (.error "")).after steps).desktop.bounds ⟨0x10008⟩ =
        .ok ⟨⟨0, 0x20000000⟩, ⟨690, 390⟩⟩ ∧
      (new (.error "")).SizesExact steps := by
  intro steps
  have hsteps : ∀ step ∈ steps, step.Moderate := by decide
  exact ⟨hsteps, rfl, sizesExact_after (.error "") steps hsteps⟩

end Session

end WindowDecor
