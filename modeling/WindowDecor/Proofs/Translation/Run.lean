import WindowDecor.Proofs.Session.Separation
import WindowDecor.Proofs.Session.Transcripts
import WindowDecor.Proofs.Translation.Desktop

/-!
# Where the screen begins makes no difference

A session is run on a desktop and on the translated one.  As long as nothing is clamped on either,
adapters answer and log the same, the same things are recorded, and all that differs in the end are
the places of monitors and windows, by as much as they differed in the beginning.  So monitors to the
left of the primary one, at negative coordinates, are treated like those to the right.

* `Adapter.requests_shift` — an adapter asks for the same on the translated desktop.
* `Session.UnclampedIn` — in a run of calls no origin is clamped and no far edge saturates.
* **`Session.run_shift`** — the two runs, step by step.
* **`Session.translates`** — what that means (`Session.Translates`).
-/

namespace WindowDecor

/-! ## Adapters -/

namespace Adapter

/-- The window that an action centers. -/
def centers? (a : Adapter) : DecoratorAction → Option WindowHandle
  | .center w | .plainCenter w => some w
  | .prepare w =>
      match a.kind with
      | .plain => none
      | .reporting => some w
  | _ => none

end Adapter

/-- Requests that do not name a place are the same for the translated desktop. -/
theorem map_shift_of_unplaced {o : Offset} {requests : List DesktopAction}
    (h : ∀ r ∈ requests, r.shift o = r ∧ r.Shiftable o) :
    requests = requests.map (·.shift o) ∧ ∀ r ∈ requests, r.Shiftable o :=
  ⟨((List.map_congr_left fun r hr => (h r hr).1).trans (List.map_id' _)).symm,
    fun r hr => (h r hr).2⟩

namespace Decorator

variable {d : Decorator} {program : ProgramFile} {desktop : Desktop} {w : WindowHandle}
  {r : DesktopAction}

/-- Icons that are put on a window are nowhere on the screen. -/
theorem unplaced_of_mem_iconRequests (hr : r ∈ d.iconRequests w) (o : Offset) :
    r.shift o = r ∧ r.Shiftable o := by
  obtain ⟨assignment, -, rfl⟩ := List.mem_map.mp hr
  exact ⟨rfl, trivial⟩

theorem unplaced_of_mem_loadRequests (hr : r ∈ d.loadRequests program) (o : Offset) :
    r.shift o = r ∧ r.Shiftable o := by
  simp only [loadRequests] at hr
  split at hr
  · cases hr
  · obtain rfl := List.mem_singleton.mp hr
    exact ⟨rfl, trivial⟩

theorem unplaced_of_mem_ownIconRequests (hr : r ∈ d.ownIconRequests program desktop w) (o : Offset) :
    r.shift o = r ∧ r.Shiftable o := by
  rcases d.ownIconRequests_cases program desktop w hr with ⟨slot, icon, rfl⟩ | ⟨path, rfl⟩
  · exact ⟨rfl, trivial⟩
  · exact ⟨rfl, trivial⟩

/-- Preparing a window names one place, where it is centered. -/
theorem prepareRequests_shift {o : Offset}
    (hcenter : (desktop.shift o).centerRequests w = (desktop.centerRequests w).map (·.shift o) ∧
      ∀ r ∈ desktop.centerRequests w, r.Shiftable o) :
    d.prepareRequests program (desktop.shift o) w =
        (d.prepareRequests program desktop w).map (·.shift o) ∧
      ∀ r ∈ d.prepareRequests program desktop w, r.Shiftable o := by
  obtain ⟨hicons, hicons'⟩ :=
    map_shift_of_unplaced fun r (hr : r ∈ d.ownIconRequests program desktop w) =>
      unplaced_of_mem_ownIconRequests hr o
  have hframe : (desktop.shift o).fixStyleRequests w =
      (desktop.fixStyleRequests w).map (·.shift o) := by
    rw [Desktop.fixStyleRequests, Desktop.style_shift]
    rfl
  have hown : d.ownIconRequests program (desktop.shift o) w =
      d.ownIconRequests program desktop w := rfl
  rw [prepareRequests_eq, prepareRequests_eq, List.map_append, List.map_append, ← hicons, hown, hframe,
    hcenter.1]
  refine ⟨rfl, fun r hr => ?_⟩
  rcases List.mem_append.mp hr with hr | hr
  · rcases List.mem_append.mp hr with hr | hr
    · exact hicons' r hr
    · obtain rfl := List.mem_singleton.mp hr
      trivial
  · exact hcenter.2 r hr

end Decorator

namespace Adapter

variable (a : Adapter) (program : ProgramFile) {desktop : Desktop} {o : Offset}
  (action : DecoratorAction)

/-- **An adapter asks for the same**, but for the place of a window that it centers. -/
theorem requests_shift (h : desktop.Shiftable o)
    (hfits : ∀ w ∈ a.centers? action, desktop.OriginFits w)
    (hfits' : ∀ w ∈ a.centers? action, (desktop.shift o).OriginFits w) :
    a.requests program (desktop.shift o) action =
        (a.requests program desktop action).map (·.shift o) ∧
      ∀ r ∈ a.requests program desktop action, r.Shiftable o := by
  obtain ⟨kind, d⟩ := a
  cases action with
  | center w => exact Desktop.centerRequests_shift w h (hfits w rfl) (hfits' w rfl)
  | plainCenter w => exact Desktop.centerRequests_shift w h (hfits w rfl) (hfits' w rfl)
  | fixStyle w =>
    simp only [requests, Desktop.fixStyleRequests, Desktop.style_shift]
    exact ⟨rfl, List.forall_mem_singleton.mpr trivial⟩
  | plainApplyIcons w =>
    exact map_shift_of_unplaced fun r hr => Decorator.unplaced_of_mem_iconRequests hr o
  | applyIcons w =>
    cases kind with
    | plain => exact map_shift_of_unplaced fun r hr => Decorator.unplaced_of_mem_iconRequests hr o
    | reporting =>
      exact map_shift_of_unplaced fun r hr => Decorator.unplaced_of_mem_ownIconRequests hr o
  | loadIconsFrom path =>
    cases kind with
    | plain => exact ⟨rfl, List.forall_mem_singleton.mpr trivial⟩
    | reporting => exact ⟨rfl, List.forall_mem_nil _⟩
  | loadOwnIcons =>
    cases kind with
    | plain => exact ⟨rfl, List.forall_mem_nil _⟩
    | reporting =>
      exact map_shift_of_unplaced fun r hr => Decorator.unplaced_of_mem_loadRequests hr o
  | prepare w =>
    cases kind with
    | plain => exact ⟨rfl, List.forall_mem_nil _⟩
    | reporting =>
      exact Decorator.prepareRequests_shift
        (Desktop.centerRequests_shift w h (hfits w rfl) (hfits' w rfl))
  | width w => exact ⟨rfl, List.forall_mem_nil _⟩
  | height w => exact ⟨rfl, List.forall_mem_nil _⟩
  | resize w width height => exact ⟨rfl, List.forall_mem_singleton.mpr trivial⟩
  | flash w => exact ⟨rfl, List.forall_mem_singleton.mpr trivial⟩
  | setProgress bar state => exact ⟨rfl, List.forall_mem_singleton.mpr trivial⟩

/-- What becomes of an adapter depends on the icons that there are to be found. -/
@[simp]
theorem next_shift : a.next program (desktop.shift o) action = a.next program desktop action := by
  cases action <;> rfl

/-- **Answers stay**: sizes, outcomes and counts have no place on the screen. -/
theorem answer_shift (h : desktop.Shiftable o) :
    a.answer program (desktop.shift o) action = a.answer program desktop action := by
  cases action with
  | width w =>
    simp only [answer, Desktop.bounds_shift]
    cases hbounds : desktop.bounds w with
    | error cause => rfl
    | ok bounds => exact congrArg ActionResult.size (Rect.width_shift (h.of_bounds w hbounds))
  | height w =>
    simp only [answer, Desktop.bounds_shift]
    cases hbounds : desktop.bounds w with
    | error cause => rfl
    | ok bounds => exact congrArg ActionResult.size (Rect.height_shift (h.of_bounds w hbounds))
  | center w => simp only [answer, Desktop.center_shift w h]
  | plainCenter w => simp only [answer, Desktop.center_shift w h]
  | _ => rfl

theorem events_shift (h : desktop.Shiftable o) :
    a.events program (desktop.shift o) action = a.events program desktop action := by
  cases action with
  | center w => simp only [events, Desktop.centerEvents_shift w h]
  | prepare w =>
    simp only [events, Desktop.centerEvents_shift w h]
    rfl
  | _ => rfl

end Adapter

/-! ## Runs -/

/-- Whether a step is about adapters: it asks something of one, or makes one.  Other steps name
places, or are told of some. -/
def Step.ofAdapters : Step → Bool
  | .desktop _ | .window _ _ => false
  | _ => true

namespace Session

/-- The session on the translated desktop. -/
def shift (s : Session) (o : Offset) : Session := { s with desktop := s.desktop.shift o }

/-- A step clamps no origin and saturates no far edge.  Icons and the frame leave a window in its
place, so also when a window is prepared its origin can be told beforehand. -/
def Unclamped (s : Session) : Step → Prop
  | .adapter index action => ∀ a ∈ s.adapters[index]?,
      (∀ w ∈ a.centers? action, s.desktop.OriginFits w) ∧
        s.desktop.FarFit (a.requests s.program s.desktop action)
  | _ => True

instance (s : Session) : (step : Step) → Decidable (s.Unclamped step)
  | .adapter index action => inferInstanceAs (Decidable (∀ a ∈ s.adapters[index]?,
      (∀ w ∈ a.centers? action, s.desktop.OriginFits w) ∧
        s.desktop.FarFit (a.requests s.program s.desktop action)))
  | .desktop _ | .newAdapter _ _ | .settings _ | .icons _ | .window _ _ => isTrue trivial

/-- A run clamps no origin and saturates no far edge. -/
def UnclampedIn (s : Session) : List Step → Prop
  | [] => True
  | step :: steps => s.Unclamped step ∧ (s.step step).1.UnclampedIn steps

instance decidableUnclampedIn : (s : Session) → (steps : List Step) →
    Decidable (s.UnclampedIn steps)
  | _, [] => isTrue trivial
  | s, step :: steps =>
      have := decidableUnclampedIn (s.step step).1 steps
      inferInstanceAs (Decidable (s.Unclamped step ∧ (s.step step).1.UnclampedIn steps))

variable {s : Session} {o : Offset}

/-- A step does the same to the translated desktop, and has the same outcome. -/
theorem step_shift (h : s.desktop.Shiftable o) {step : Step} (hstep : step.ofAdapters)
    (hfits : s.Unclamped step) (hfits' : (s.shift o).Unclamped step) :
    (s.step step).1.desktop.Shiftable o ∧
      (s.shift o).step step = ((s.step step).1.shift o, (s.step step).2) := by
  have hdesktop : (s.shift o).desktop = s.desktop.shift o := rfl
  have hprogram : (s.shift o).program = s.program := rfl
  have hadapters : (s.shift o).adapters = s.adapters := rfl
  cases step with
  | desktop action => cases hstep
  | window index w => cases hstep
  | newAdapter kind settings => cases settings <;> exact ⟨h, rfl⟩
  | settings index => exact ⟨h, rfl⟩
  | icons index => exact ⟨h, rfl⟩
  | adapter index action =>
    cases ha : s.adapters[index]? with
    | none =>
      simp only [Session.step, hadapters, ha]
      exact ⟨h, trivial⟩
    | some a =>
      obtain ⟨horigin, hfar⟩ := hfits a ha
      obtain ⟨horigin', hfar'⟩ := hfits' a ha
      obtain ⟨hrequests, hplaces⟩ := a.requests_shift s.program action h horigin horigin'
      rw [hdesktop, hprogram, hrequests] at hfar'
      obtain ⟨hnext, hperform⟩ := Desktop.performAll_shift
        (fun r hr => Adapter.isRequestFor_of_mem_requests hr) h hplaces hfar hfar'
      rw [step_adapter_eq ha, step_adapter_eq (s := s.shift o) ha, hdesktop, hprogram, hrequests,
        hperform, a.next_shift, a.answer_shift _ _ h, a.events_shift _ _ h]
      exact ⟨hnext, rfl⟩

/-- **The two runs go the same way.** -/
theorem run_shift {steps : List Step} (h : s.desktop.Shiftable o)
    (hsteps : ∀ step ∈ steps, step.ofAdapters) (hfits : s.UnclampedIn steps)
    (hfits' : (s.shift o).UnclampedIn steps) :
    (s.after steps).desktop.Shiftable o ∧
      (s.shift o).run steps = ((s.after steps).shift o, (s.run steps).2) := by
  induction steps generalizing s with
  | nil => exact ⟨h, rfl⟩
  | cons step rest ih =>
    obtain ⟨hnext, hstep⟩ := step_shift h (hsteps step List.mem_cons_self) hfits.1 hfits'.1
    have hrest' := hfits'.2
    rw [hstep] at hrest'
    obtain ⟨hlast, hrun⟩ := ih hnext (fun step hmem => hsteps step (List.mem_cons_of_mem _ hmem))
      hfits.2 hrest'
    refine ⟨hlast, ?_⟩
    simp only [run, hstep, hrun]
    rfl

/-- Nothing is clamped in the first part of a run in which nothing is. -/
theorem UnclampedIn.of_append {earlier later : List Step} (h : s.UnclampedIn (earlier ++ later)) :
    s.UnclampedIn earlier := by
  induction earlier generalizing s with
  | nil => trivial
  | cons step rest ih => exact ⟨h.1, ih h.2⟩

/-- A run of steps on a desktop, and on the desktop translated. -/
structure Translates (s : Session) (o : Offset) (steps : List Step) : Prop where
  /-- Adapters give the same answers and log the same events. -/
  outcomes : ((s.shift o).run steps).2 = (s.run steps).2
  /-- All along, windows are on the same monitors. -/
  monitors : ∀ earlier later, steps = earlier ++ later → ∀ w,
    ((s.shift o).after earlier).desktop.monitorOf? w = (s.after earlier).desktop.monitorOf? w
  records : ∀ k, ((s.shift o).after steps).desktop.record k = (s.after steps).desktop.record k
  /-- A window ends up as far from its other self as it was in the beginning, of the same size, and
  with the same icons and style. -/
  windows : ∀ {w window}, (s.after steps).desktop.window? w = some window →
    ∃ shifted, ((s.shift o).after steps).desktop.window? w = some shifted ∧
      shifted.bounds.left.toInt = window.bounds.left.toInt + o.x ∧
      shifted.bounds.right.toInt = window.bounds.right.toInt + o.x ∧
      shifted.bounds.top.toInt = window.bounds.top.toInt + o.y ∧
      shifted.bounds.bottom.toInt = window.bounds.bottom.toInt + o.y ∧
      shifted.bounds.width = window.bounds.width ∧ shifted.bounds.height = window.bounds.height ∧
      { shifted with bounds := window.bounds } = window
  /-- Everything else is as it would be. -/
  last : (s.shift o).after steps = (s.after steps).shift o

/-- **Where the screen begins makes no difference**, as long as nothing is clamped. -/
theorem translates (s : Session) (o : Offset) (steps : List Step) (h : s.desktop.Shiftable o)
    (hsteps : ∀ step ∈ steps, step.ofAdapters) (hfits : s.UnclampedIn steps)
    (hfits' : (s.shift o).UnclampedIn steps) : s.Translates o steps := by
  obtain ⟨hshiftable, hrun⟩ := run_shift h hsteps hfits hfits'
  have hlast : (s.shift o).after steps = (s.after steps).shift o := congrArg Prod.fst hrun
  constructor
  case outcomes => rw [hrun]
  case last => exact hlast
  case monitors =>
    rintro earlier later rfl w
    obtain ⟨hthen, hrun'⟩ := run_shift h
      (fun step hmem => hsteps step (List.mem_append_left _ hmem)) hfits.of_append hfits'.of_append
    have hafter : (s.shift o).after earlier = (s.after earlier).shift o := congrArg Prod.fst hrun'
    rw [hafter]
    exact Desktop.monitorOf?_shift w hthen
  case records =>
    intro k
    rw [hlast]
    cases k <;> rfl
  case windows =>
    intro w window hwindow
    have hbounds := hshiftable.bounds window (Desktop.mem_of_window? hwindow)
    refine ⟨window.shift o, ?_, Interval.toInt_near_shift hbounds.1,
      Interval.toInt_far_shift hbounds.1, Interval.toInt_near_shift hbounds.2,
      Interval.toInt_far_shift hbounds.2, Rect.width_shift hbounds, Rect.height_shift hbounds, rfl⟩
    rw [hlast]
    exact (Desktop.window?_shift w _ o).trans (congrArg (Option.map _) hwindow)

/-- Two monitors side by side, both carried to the left of the origin and above it.  The differences
that are halved on the way are odd. -/
theorem translates_sideBySide :
    let w : WindowHandle := ⟨12⟩
    let s : Session :=
      { program := .error ""
        desktop := Desktop.sideBySide
        adapters := [.new .plain .default, .new .reporting .default] }
    let o : Offset := ⟨-4000, -1213⟩
    let steps : List Step :=
      [.adapter 0 (.center w), .adapter 1 (.resize w 800 (-401)), .adapter 0 (.width w),
        .adapter 1 (.prepare w)]
    s.desktop.Shiftable o ∧ (∀ step ∈ steps, step.ofAdapters) ∧ s.UnclampedIn steps ∧
      (s.shift o).UnclampedIn steps ∧ s.Translates o steps ∧
      ((s.after steps).desktop.window? w).map (·.bounds) = some ⟨⟨2480, 3280⟩, ⟨777, 376⟩⟩ ∧
      (((s.shift o).after steps).desktop.window? w).map (·.bounds) =
        some ⟨⟨-1520, -720⟩, ⟨-436, -837⟩⟩ := by
  intro w s o steps
  have hshiftable : s.desktop.Shiftable o := by decide
  have hsteps : ∀ step ∈ steps, step.ofAdapters := by decide
  have hfits : s.UnclampedIn steps := by decide
  have hfits' : (s.shift o).UnclampedIn steps := by decide
  have hbounds : ((s.after steps).desktop.window? w).map (·.bounds) =
      some ⟨⟨2480, 3280⟩, ⟨777, 376⟩⟩ := by decide
  have hbounds' : (((s.shift o).after steps).desktop.window? w).map (·.bounds) =
        some ⟨⟨-1520, -720⟩, ⟨-436, -837⟩⟩ := by decide
  exact ⟨hshiftable, hsteps, hfits, hfits', translates s o steps hshiftable hsteps hfits hfits',
    hbounds, hbounds'⟩

end Session

end WindowDecor
