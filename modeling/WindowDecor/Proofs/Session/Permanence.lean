import WindowDecor.Proofs.Centering.Failure
import WindowDecor.Proofs.Centering.Outcome
import WindowDecor.Proofs.Session.Stale
import WindowDecor.Proofs.Session.Styles

/-!
# What cannot be undone

A window that was destroyed does not come back, and a reading that was made to fail does not succeed
again, however long a session goes on.  Handles are given out once, so no later window or monitor
takes over a handle that something was done to.

* **`Session.not_live_append`** — a window that is gone does not come back.
* `Session.Unreadable` — nothing that needs a window's bounds works any more.
* `Window.Resized`, `Window.Restyled` — what becomes of a window, edge by edge and bit by bit.
* `Session.Writable` — the operations that do not need a window's bounds still work.
* **`Session.neverUndone`** — which of these holds for good, and from when on (`Session.NeverUndone`).
-/

namespace WindowDecor

namespace Session

/-! ## Longer histories -/

section

variable {s : Session} {program : ProgramFile} {steps since : List Step} {w : WindowHandle}

/-- What happened in a run still happened when it goes on. -/
theorem Since.append {event : Session → Step → Prop} (h : s.Since event steps since)
    (later : List Step) : s.Since event (steps ++ later) (since ++ later) := by
  obtain ⟨earlier, step, rfl, hevent⟩ := h
  exact ⟨earlier, step, by simp, hevent⟩

/-- **A window that is gone does not come back.** -/
theorem not_live_append (hissued : (new program).Since (IssuesWindow w) steps since)
    (hgone : ¬ (new program).Live steps w) {later : List Step}
    (hfew : additions (steps ++ later) < 2 ^ 60) : ¬ (new program).Live (steps ++ later) w := by
  induction later using List.reverseRecOn with
  | nil => rwa [List.append_nil]
  | append_singleton later step ih =>
    rw [← List.append_assoc] at hfew ⊢
    rw [additions_append] at hfew
    have hfew' : additions (steps ++ later) < 2 ^ 60 := by omega
    intro hlive
    simp only [Live] at hlive
    rw [since_snoc] at hlive
    rcases hlive with ⟨hnow, -⟩ | ⟨since', hsince, hkept⟩
    · -- the handle would be given out a second time
      exact not_since_of_issued (numbers_issuesWindow w) hfew' hnow (hissued.append later)
    · exact ih hfew' ⟨since', hsince, fun hmem => hkept (List.mem_append_left _ hmem)⟩

end

/-! ## Windows that cannot be read -/

/-- The window's size is not known to any adapter, and none can center it. -/
structure Unreadable (s : Session) (steps : List Step) (w : WindowHandle) : Prop where
  /-- The width is what the adapter's settings say, and these are those that it was made with. -/
  width : ∀ {index kind settings},
    (steps.filterMap Step.configuration?)[index]? = some (kind, settings) →
      ((s.after steps).step (.adapter index (.width w))).2.result =
        .action (.size settings.fallbackWidth)
  height : ∀ {index kind settings},
    (steps.filterMap Step.configuration?)[index]? = some (kind, settings) →
      ((s.after steps).step (.adapter index (.height w))).2.result =
        .action (.size settings.fallbackHeight)
  notCentered : ∃ e, (s.after steps).NotCentered w e

section

variable (program : ProgramFile) {steps : List Step} {w : WindowHandle}

/-- An adapter that a run made is there in the end. -/
theorem exists_adapter_of_configuration {index : Nat} {c : AdapterKind × Settings}
    (hc : (steps.filterMap Step.configuration?)[index]? = some c) :
    ∃ a, ((new program).after steps).adapters[index]? = some a ∧ a.configuration = c := by
  have hkept : ((new program).after steps).adapters.map Adapter.configuration =
      steps.filterMap Step.configuration? := configurations_after (new program) steps
  rw [← hkept, List.getElem?_map, Option.map_eq_some_iff] at hc
  exact hc

/-- A window that was destroyed cannot be read, nor can one whose bounds were made to fail. -/
theorem unreadable_of_lost (hfew : additions steps < 2 ^ 60)
    (hlost : ¬ (new program).Live steps w ∨ (new program).BoundsFailed steps w) :
    (new program).Unreadable steps w := by
  have hnot : ¬ ((new program).Live steps w ∧ ¬ (new program).BoundsFailed steps w) :=
    fun ⟨hlive, hreads⟩ => hlost.elim (· hlive) hreads
  obtain ⟨cause, hbounds⟩ : ∃ cause, ((new program).after steps).desktop.bounds w = .error cause := by
    rcases bounds_after program steps hfew w with ⟨-, hfails⟩ | ⟨hreads, -⟩
    · exact hfails
    · exact absurd hreads hnot
  constructor
  case width =>
    intro index kind settings hmade
    obtain ⟨a, ha, hsame⟩ := exists_adapter_of_configuration program hmade
    obtain ⟨-, rfl⟩ := Prod.mk.inj hsame
    rw [step_adapter_eq ha]
    simp only [Adapter.answer, hbounds]
  case height =>
    intro index kind settings hmade
    obtain ⟨a, ha, hsame⟩ := exists_adapter_of_configuration program hmade
    obtain ⟨-, rfl⟩ := Prod.mk.inj hsame
    rw [step_adapter_eq ha]
    simp only [Adapter.answer, hbounds]
  case notCentered =>
    rcases center_after program steps hfew w with
      ⟨-, hcenter⟩ | ⟨m, -, ⟨-, hcenter⟩ | ⟨-, ⟨-, cause', hcenter⟩ | ⟨hreads, -⟩⟩⟩
    · exact ⟨_, notCentered_of_fails hcenter⟩
    · exact ⟨_, notCentered_of_fails hcenter⟩
    · exact ⟨_, notCentered_of_fails hcenter⟩
    · exact absurd hreads hnot

end

/-! ## Windows that can still be written -/

end Session

/-- What becomes of a window that is resized: its near edges stay, its far edges are as far from them
as the size says, or as far as coordinates reach, and all else is as it was. -/
structure Window.Resized (window : Window) (width height : Int32) (new : Window) : Prop where
  left : new.bounds.left = window.bounds.left
  top : new.bounds.top = window.bounds.top
  right : new.bounds.right.toInt = clampInt (window.bounds.left.toInt + width.toInt)
  bottom : new.bounds.bottom.toInt = clampInt (window.bounds.top.toInt + height.toInt)
  others : new = { window with bounds := new.bounds }

/-- Resizing keeps the origin, and the far edges are as far as there are coordinates. -/
theorem Window.resized_resize (window : Window) (width height : Int32) :
    window.Resized width height (window.resize width height) where
  left := rfl
  top := rfl
  right := Interval.toInt_far_ofStart _ _
  bottom := Interval.toInt_far_ofStart _ _
  others := rfl

/-- What becomes of a window whose frame is fixed: two bits of its style are cleared, that is one
writing of the style more, and all else is as it was. -/
structure Window.Restyled (window new : Window) : Prop where
  bits : ∀ i, new.style.bit i = (window.style.bit i && decide (i ≠ 16 ∧ i ≠ 18))
  others : new =
    { window with style := new.style, styleWrites := window.styleWrites + 1 }

/-- Fixing the frame clears two bits of the style and counts one writing. -/
theorem Window.restyled_setStyle (window : Window) :
    window.Restyled (window.setStyle window.style.withoutResizeAffordances) where
  bits := window.style.bit_withoutResizeAffordances
  others := rfl

/-- Preparing a window gives it its frame, and until it is centered leaves it in its place. -/
theorem Decorator.window?_prepared (d : Decorator) (program : ProgramFile) {desktop : Desktop}
    {w : WindowHandle} {window : Window} (hwindow : desktop.window? w = some window) :
    ∃ new, (d.prepared program desktop w).window? w = some new ∧
      new.style = window.style.withoutResizeAffordances ∧ new.place = window.place := by
  let requests := d.ownIconRequests program desktop w
  have hrequests : ∀ r ∈ requests, r.isRequestFor (some w) :=
    fun _ hr => isRequestFor_of_mem_ownIconRequests hr
  have hdressed : (desktop.performAll requests).window? w = some (changeAll requests window) := by
    rw [Desktop.window?_performAll hrequests, if_pos rfl, hwindow]
    rfl
  -- icons are neither part of the style nor of the place
  let look (window : Window) : WindowStyle × (Rect × Bool) := (window.style, window.place)
  have hicons : ∀ r ∈ requests, ∀ window, look (r.change window) = look window := by
    intro r hr window
    rcases d.ownIconRequests_cases program desktop w hr with ⟨slot, icon, rfl⟩ | ⟨path, rfl⟩
    · cases slot <;> rfl
    · rfl
  obtain ⟨hstyle, hplace⟩ := Prod.mk.inj (changeAll_view look hicons window)
  refine ⟨(changeAll requests window).setStyle window.style.withoutResizeAffordances, ?_, rfl,
    hplace⟩
  have hread : (desktop.performAll requests).style w = window.style := by
    simp only [Desktop.style, hdressed]
    exact hstyle
  show ((desktop.performAll requests).setStyle w
    ((desktop.performAll requests).style w).withoutResizeAffordances).window? w = _
  rw [hread, Desktop.window?_setStyle, if_pos rfl, hdressed]
  rfl

namespace Session

variable {s : Session} {w : WindowHandle} {window : Window}

/-- Adapters still resize the window, restyle it and give it icons. -/
structure Writable (s : Session) (w : WindowHandle) (window : Window) : Prop where
  resized : ∀ {index a} width height, s.adapters[index]? = some a →
    ∃ new, (s.step (.adapter index (.resize w width height))).1.desktop.window? w = some new ∧
      window.Resized width height new
  restyled : ∀ {index a}, s.adapters[index]? = some a →
    ∃ new, (s.step (.adapter index (.fixStyle w))).1.desktop.window? w = some new ∧
      window.Restyled new
  /-- An icon that the adapter has goes into its slot, and without one the slot stays as it was. -/
  dressed : ∀ {index a action}, s.adapters[index]? = some a → a.dresses? action = some w →
    ∃ new, (s.step (.adapter index action)).1.desktop.window? w = some new ∧ ∀ slot, new.icon? slot =
      ((a.next s.program s.desktop action).decorator.icons.icon? slot).or (window.icon? slot)
  /-- Preparing the window restyles it, and leaves it in its place. -/
  prepared : ∀ {index d}, s.adapters[index]? = some ⟨.reporting, d⟩ →
    ∃ new, (s.step (.adapter index (.prepare w))).1.desktop.window? w = some new ∧
      (∀ i, new.style.bit i = (window.style.bit i && decide (i ≠ 16 ∧ i ≠ 18))) ∧
        new.bounds = window.bounds

/-- What an adapter is asked about a window does its changes to it. -/
theorem window?_step_adapter {index : Nat} {a : Adapter} (ha : s.adapters[index]? = some a)
    {action : DecoratorAction} (htarget : action.target? = some w) :
    (s.step (.adapter index action)).1.desktop.window? w =
      (s.desktop.window? w).map (changeAll (a.requests s.program s.desktop action)) := by
  have hrequests : ∀ r ∈ a.requests s.program s.desktop action, r.isRequestFor action.target? :=
    fun _ hr => Adapter.isRequestFor_of_mem_requests hr
  have hchanged := Desktop.window?_performAll hrequests s.desktop w
  rw [if_pos htarget] at hchanged
  rw [step_adapter ha]
  exact hchanged

/-- What fails to be read can still be written. -/
theorem writable_of_boundsFail (hwindow : s.desktop.window? w = some window)
    (hfail : window.boundsFail = true) : s.Writable w window := by
  constructor
  case resized =>
    intro index a width height ha
    refine ⟨_, ?_, window.resized_resize width height⟩
    rw [window?_step_adapter ha rfl, hwindow]
    rfl
  case restyled =>
    intro index a ha
    have hstyle : s.desktop.style w = window.style := by
      simp only [Desktop.style, hwindow, Option.map_some, Option.getD_some]
    refine ⟨_, ?_, window.restyled_setStyle⟩
    rw [window?_step_adapter ha rfl, hwindow, ← hstyle]
    rfl
  case dressed =>
    intro index a action ha hdresses
    exact icon?_step_of_dresses ha hdresses hwindow
  case prepared =>
    intro index d hd
    obtain ⟨e, hfails⟩ : ∃ e, (center w s.desktop).1 = .error e := by
      cases hcenter : (center w s.desktop).1 with
      | error e => exact ⟨e, rfl⟩
      | ok =>
        obtain ⟨-, -, bounds, -, -, hread, -⟩ := Desktop.center_of_ok hcenter
        simp [Desktop.bounds, hwindow, hfail] at hread
    obtain ⟨new, hnew, hstyle, hplace⟩ := d.window?_prepared s.program hwindow
    rw [← d.performAll_prepareRequests s.program hfails] at hnew
    rw [step_adapter hd]
    refine ⟨new, hnew, fun i => ?_, congrArg Prod.fst hplace⟩
    rw [hstyle, WindowStyle.bit_withoutResizeAffordances]

/-! ## For good -/

/-- What no continuation of a run undoes. -/
structure NeverUndone (s : Session) (steps later : List Step) : Prop where
  /-- A window that was destroyed is gone, its handle inert, and its bounds unknown. -/
  destroyed : ∀ {w}, ((s.after steps).desktop.window? w).isSome →
    (s.after (steps ++ .desktop (.destroyWindow w) :: later)).Stale w ∧
      s.Unreadable (steps ++ .desktop (.destroyWindow w) :: later) w
  /-- Bounds that were made to fail are unknown, whether or not the window is still there. -/
  boundsFailed : ∀ {w}, ((s.after steps).desktop.window? w).isSome →
    s.Unreadable (steps ++ .desktop (.failWindowBounds w) :: later) w
  /-- As long as it is, it is not only for reading that it is there. -/
  writable : ∀ {w}, ((s.after steps).desktop.window? w).isSome → .desktop (.destroyWindow w) ∉ later →
    let last := s.after (steps ++ .desktop (.failWindowBounds w) :: later)
    ∃ window, last.desktop.window? w = some window ∧ window.boundsFail = true ∧
      last.Writable w window
  /-- No window is centered on a monitor whose work area was made to fail. -/
  infoFailed : ∀ {m w}, ((s.after steps).desktop.monitor? m).isSome →
    let last := s.after (steps ++ .desktop (.failMonitorInfo m) :: later)
    last.desktop.monitorOf? w = some m → last.NotCentered w (.monitorInfo monitorInfoUnavailable)

/-- **Neither destruction nor a failure is ever undone.** -/
theorem neverUndone (program : ProgramFile) (steps later : List Step)
    (hfew : additions steps + additions later < 2 ^ 60) :
    (new program).NeverUndone steps later := by
  have hfewer : additions steps < 2 ^ 60 := by omega
  have hall : ∀ action : DesktopAction, action.adds = false →
      additions (steps ++ .desktop action :: later) < 2 ^ 60 := by
    intro action hadds
    have hnot : additions [.desktop action] = 0 := by
      rw [additions_singleton, Step.adds, hadds]
      rfl
    rw [← List.singleton_append, additions_append, additions_append, hnot]
    omega
  have hfailed : ∀ {w}, (((new program).after steps).desktop.window? w).isSome →
      (new program).BoundsFailed (steps ++ .desktop (.failWindowBounds w) :: later) w := by
    intro w hthere
    obtain ⟨since, hsince, -⟩ := (window?_isSome_iff_live program steps w).mp hthere
    exact ⟨_, hsince.append _, by simp⟩
  constructor
  case destroyed =>
    intro w hthere
    obtain ⟨since, hsince, -⟩ := (window?_isSome_iff_live program steps w).mp hthere
    have hgone : ¬ (new program).Live (steps ++ [.desktop (.destroyWindow w)]) w := by
      rw [← window?_isSome_iff_live, after_snoc]
      show ¬ ((((new program).after steps).desktop.destroyWindow w).window? w).isSome
      rw [Desktop.window?_destroyWindow, if_pos rfl]
      exact Bool.noConfusion
    have hfew' := hall (.destroyWindow w) rfl
    rw [List.append_cons] at hfew' ⊢
    have hnever := not_live_append (hsince.append _) hgone hfew'
    refine ⟨stale_of_gone ?_, unreadable_of_lost program hfew' (.inl hnever)⟩
    rwa [← window?_isSome_iff_live, Option.not_isSome_iff_eq_none] at hnever
  case boundsFailed =>
    intro w hthere
    exact unreadable_of_lost program (hall _ rfl) (.inr (hfailed hthere))
  case writable =>
    intro w hthere hkept last
    obtain ⟨since, hsince, hkept'⟩ := (window?_isSome_iff_live program steps w).mp hthere
    have hlive : (new program).Live (steps ++ .desktop (.failWindowBounds w) :: later) w :=
      ⟨_, hsince.append _, by simp [hkept, hkept']⟩
    rw [← window?_isSome_iff_live, Option.isSome_iff_exists] at hlive
    obtain ⟨window, hwindow⟩ := hlive
    have hfail := (boundsFail_iff program _ (hall _ rfl) hwindow).mpr (hfailed hthere)
    exact ⟨window, hwindow, hfail, writable_of_boundsFail hwindow hfail⟩
  case infoFailed =>
    -- the window is on a monitor, so of the four outcomes it cannot be that there is none
    intro m w hthere last hm
    obtain ⟨monitor, hmonitor⟩ := Option.isSome_iff_exists.mp hthere
    obtain ⟨since, hsince⟩ := since_of_monitor? program hfewer hmonitor
    have hinfo : (new program).InfoFailed (steps ++ .desktop (.failMonitorInfo m) :: later) m :=
      ⟨_, hsince.append _, by simp⟩
    rcases center_after program _ (hall (.failMonitorInfo m) rfl) w with
      ⟨hnone, -⟩ | ⟨m', hm', ⟨-, hcenter⟩ | ⟨hnot, -⟩⟩
    · cases (Desktop.monitorOf?_eq_none_iff.mpr hnone).symm.trans hm
    · exact notCentered_of_fails hcenter
    · obtain rfl := Option.some.inj (hm'.symm.trans hm)
      exact absurd hinfo hnot

/-- A window is destroyed and another one created, and both adapters go on using the first handle:
one assigns icons to it for the first time, which goes on record and changes nothing else.  A window
whose bounds cannot be read is then resized, restyled and dressed all the same. -/
theorem neverUndone_reopened :
    let w : WindowHandle := ⟨0x10008⟩
    let steps : List Step :=
      [.desktop (.addMonitor ⟨⟨0, 1920⟩, ⟨0, 1080⟩⟩ ⟨⟨0, 1920⟩, ⟨0, 1040⟩⟩),
        .desktop (.addWindow ⟨⟨40, 440⟩, ⟨40, 340⟩⟩ .overlapped),
        .desktop (.addIcons ⟨"launcher"⟩ ⟨2, .ofRaw 7 8⟩),
        .newAdapter .plain (.ok .default), .newAdapter .reporting (.ok .default)]
    let later : List Step :=
      [.desktop (.addWindow ⟨⟨0, 400⟩, ⟨0, 300⟩⟩ .none), .adapter 0 (.resize w 5 5),
        .adapter 1 (.prepare w)]
    let start := new (.ok ⟨"launcher"⟩)
    let reopened := start.after (steps ++ .desktop (.destroyWindow w) :: later)
    let failing := start.after (steps ++ .desktop (.failWindowBounds w) :: later)
    additions steps + additions later < 2 ^ 60 ∧
      start.NeverUndone steps later ∧
      reopened.desktop.windows = [.fresh ⟨0x1000c⟩ ⟨⟨0, 400⟩, ⟨0, 300⟩⟩ .none] ∧
      reopened.desktop.assignments.map (·.icon.raw) = [7, 8] ∧
      failing.desktop.window? w = some
        { handle := w
          bounds := ⟨⟨40, 45⟩, ⟨40, 45⟩⟩
          style := ⟨0x00ca0000⟩
          bigIcon := IconHandle.ofRaw? 7
          smallIcon := IconHandle.ofRaw? 8
          styleWrites := 1
          boundsFail := true } := by
  intro w steps later start reopened failing
  have hfew : additions steps + additions later < 2 ^ 60 := by decide
  exact ⟨hfew, neverUndone (.ok ⟨"launcher"⟩) steps later hfew, by decide +kernel,
    by decide +kernel, by decide +kernel⟩

end Session

end WindowDecor
