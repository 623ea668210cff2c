import WindowDecor.Proofs.Session.Adapters
import WindowDecor.Proofs.Session.Changes
import WindowDecor.Proofs.Session.Handles

/-!
# Stale handles

Whoever holds on to the handle of a window that is gone may go on using it.  Nothing comes of that
but entries in the records, and that a reporting adapter loads its icons if it had not yet.

* `Desktop.OnlyRecorded` — two desktops of which the second has longer records and is otherwise the
  first, and **`Desktop.onlyRecorded_request`** for requests that name no window.
* `Adapter.Fills`, `Adapter.next_cases` — what becomes of an adapter that is asked about a window.
* **`Session.stale_of_gone`** — what is addressed to a window that is gone (`Session.Stale`).
-/

namespace WindowDecor

/-! ## Desktops -/

namespace Desktop

/-- Records were added to, and nothing else was done. -/
structure OnlyRecorded (before after : Desktop) : Prop where
  lastHandle : after.lastHandle = before.lastHandle
  monitors : after.monitors = before.monitors
  windows : after.windows = before.windows
  resources : after.resources = before.resources
  extractions : before.extractions <+: after.extractions
  assignments : before.assignments <+: after.assignments
  flashes : before.flashes <+: after.flashes
  progress : before.progress <+: after.progress

namespace OnlyRecorded

variable {d d' d'' : Desktop}

theorem refl (d : Desktop) : OnlyRecorded d d where
  lastHandle := rfl
  monitors := rfl
  windows := rfl
  resources := rfl
  extractions := List.prefix_refl _
  assignments := List.prefix_refl _
  flashes := List.prefix_refl _
  progress := List.prefix_refl _

theorem trans (h : OnlyRecorded d d') (h' : OnlyRecorded d' d'') : OnlyRecorded d d'' where
  lastHandle := h'.lastHandle.trans h.lastHandle
  monitors := h'.monitors.trans h.monitors
  windows := h'.windows.trans h.windows
  resources := h'.resources.trans h.resources
  extractions := h.extractions.trans h'.extractions
  assignments := h.assignments.trans h'.assignments
  flashes := h.flashes.trans h'.flashes
  progress := h.progress.trans h'.progress

theorem window?_eq (h : OnlyRecorded d d') (w : WindowHandle) : d'.window? w = d.window? w := by
  rw [window?, window?, h.windows]

end OnlyRecorded

variable {d : Desktop} {w : WindowHandle}

/-- **A request for a window that is gone is recorded at most.** -/
theorem onlyRecorded_request (hgone : d.window? w = none) {r : DesktopAction}
    (hr : r.isRequestFor (some w)) : OnlyRecorded d (d.perform r).1 := by
  have hchange : ∀ change, OnlyRecorded d (d.changeWindow w change) := by
    intro change
    rw [changeWindow_of_none hgone]
    exact .refl d
  cases r with
  | move v origin =>
    obtain rfl : w = v := Option.some.inj (of_decide_eq_true hr)
    exact hchange _
  | resize v width height =>
    obtain rfl : w = v := Option.some.inj (of_decide_eq_true hr)
    exact hchange _
  | setStyle v style =>
    obtain rfl : w = v := Option.some.inj (of_decide_eq_true hr)
    exact hchange _
  | setIcon v slot icon =>
    -- there is no slot to put the icon in, but that it was asked for is recorded
    obtain rfl : w = v := Option.some.inj (of_decide_eq_true hr)
    exact { hchange _ with assignments := List.prefix_append _ _ }
  | flash v count => exact { OnlyRecorded.refl d with flashes := List.prefix_append _ _ }
  | setProgress v state => exact { OnlyRecorded.refl d with progress := List.prefix_append _ _ }
  | extractIcons path => exact { OnlyRecorded.refl d with extractions := List.prefix_append _ _ }
  | _ => cases hr

/-- Requests about a window that is gone are only recorded. -/
theorem onlyRecorded_requests (hgone : d.window? w = none) {requests : List DesktopAction}
    (hrequests : ∀ r ∈ requests, r.isRequestFor (some w)) :
    OnlyRecorded d (d.performAll requests) := by
  refine performAll_induction (.refl d) ?_
  intro r hr before hbefore
  have hgone' : before.window? w = none := (hbefore.window?_eq w).trans hgone
  exact hbefore.trans (onlyRecorded_request hgone' (hrequests r hr))

end Desktop

/-! ## Adapters -/

/-- Loading changes the icons at hand and nothing else. -/
theorem Decorator.exists_loaded (d : Decorator) (program : ProgramFile) (desktop : Desktop) :
    ∃ icons, d.loaded program desktop = { d with icons := .loaded icons } := by
  simp only [loaded]
  cases d.iconSource program with
  | error reason => exact ⟨.empty, rfl⟩
  | ok source => exact ⟨(desktop.iconsAt source).icons, rfl⟩

namespace Adapter

/-- The adapter has loaded its icons in between, for the first time. -/
def Fills (before after : Adapter) : Prop :=
  ∃ settings icons, before = .new .reporting settings ∧
    after = ⟨.reporting, settings, .loaded icons⟩

/-- Getting ready changes nothing, or has the adapter load for the first time. -/
theorem fills_ready (d : Decorator) (program : ProgramFile) (desktop : Desktop) :
    Adapter.mk .reporting (d.ready program desktop) = ⟨.reporting, d⟩ ∨
      Fills ⟨.reporting, d⟩ ⟨.reporting, d.ready program desktop⟩ := by
  obtain ⟨settings, cache⟩ := d
  cases cache with
  | loaded icons => exact .inl rfl
  | notLoaded =>
    obtain ⟨icons, hicons⟩ := Decorator.exists_loaded ⟨settings, .notLoaded⟩ program desktop
    exact .inr ⟨settings, icons, rfl, congrArg (Adapter.mk .reporting) hicons⟩

/-- **An adapter that is asked about a window** stays as it is, or loads its icons for the first
time. -/
theorem next_cases (a : Adapter) (program : ProgramFile) (desktop : Desktop)
    {action : DecoratorAction} (htarget : action.target? ≠ none) :
    a.next program desktop action = a ∨ a.Fills (a.next program desktop action) := by
  obtain ⟨kind, d⟩ := a
  cases action with
  | loadIconsFrom path => exact absurd rfl htarget
  | loadOwnIcons => exact absurd rfl htarget
  | applyIcons w =>
    cases kind with
    | plain => exact .inl rfl
    | reporting => exact fills_ready d program desktop
  | prepare w =>
    cases kind with
    | plain => exact .inl rfl
    | reporting => exact fills_ready d program desktop
  | _ => exact .inl rfl

end Adapter

/-! ## Sessions -/

/-- The step is addressed to the window: an adapter is asked about it, or the desktop itself. -/
def Step.addresses (w : WindowHandle) : Step → Prop
  | .adapter _ action => action.target? = some w
  | .desktop action => action.isRequestFor (some w)
  | _ => False

namespace Session

variable {s : Session} {w : WindowHandle} {step : Step}

/-- What a step changes for a window is a request about it. -/
theorem isRequestFor_of_mem_changes (hstep : step.addresses w) :
    ∀ r ∈ s.changes step, r.isRequestFor (some w) := by
  intro r hr
  cases step with
  | desktop action => exact (List.mem_singleton.mp hr) ▸ hstep
  | adapter index action =>
    simp only [changes] at hr
    split at hr
    · cases hr
    · exact hstep ▸ Adapter.isRequestFor_of_mem_requests hr
  | _ => cases hr

/-- The window is gone, and what is still addressed to it has no effect on anything that is left. -/
structure Stale (s : Session) (w : WindowHandle) : Prop where
  gone : s.desktop.window? w = none
  desktop : ∀ {step}, step.addresses w → s.desktop.OnlyRecorded (s.step step).1.desktop
  /-- At most a reporting adapter loads its icons for the first time. -/
  adapters : ∀ {step}, step.addresses w → (s.step step).1.adapters = s.adapters ∨
    ∃ index before after, s.adapters[index]? = some before ∧ before.Fills after ∧
      (s.step step).1.adapters = s.adapters.set index after

/-- **Handles of windows that are gone are inert.** -/
theorem stale_of_gone (hgone : s.desktop.window? w = none) : s.Stale w := by
  constructor
  case gone => exact hgone
  case desktop =>
    intro step hstep
    rw [desktop_step]
    exact Desktop.onlyRecorded_requests hgone (isRequestFor_of_mem_changes hstep)
  case adapters =>
    intro step hstep
    cases step with
    | adapter index action =>
      have htarget : action.target? ≠ none := by
        intro hnone
        cases hnone.symm.trans hstep
      cases ha : s.adapters[index]? with
      | none =>
        left
        simp only [Session.step, ha]
      | some a =>
        rw [step_adapter ha]
        rcases a.next_cases s.program s.desktop htarget with hsame | hfills
        · left
          obtain ⟨hindex, rfl⟩ := List.getElem?_eq_some_iff.mp ha
          simp only [hsame, List.set_getElem_self]
        · exact .inr ⟨index, a, _, ha, hfills, rfl⟩
    | desktop action => exact .inl rfl
    | _ => cases hstep

end Session

end WindowDecor
