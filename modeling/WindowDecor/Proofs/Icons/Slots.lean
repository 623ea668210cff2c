import WindowDecor.Proofs.Icons.Assignments
import WindowDecor.Proofs.Session.Handles

/-!
# Slots show what was assigned last

What a window has in its two slots can be read off the record of assignments: in each, the icon that
was assigned last since the window was created.  Assignments from before that time do not count, even
to its handle, for somebody may have guessed the number that would come next.

* `lastIcon` — the last icon that a list of assignments has for a slot of a window.
* `Desktop.icon?_perform`, `Session.icon?_step`, `Session.icon?_after` — an action, a step and a run
  put the last icon that they assign into a slot, or else leave the slot alone.
* **`Session.slotsShowLast_after`** — what follows for windows that were created in the run
  (`Session.SlotsShowLast`).
-/

namespace WindowDecor

/-! ## Slots -/

namespace Window

/-- The icon in a slot. -/
def icon? (window : Window) : IconClass → Option IconHandle
  | .big => window.bigIcon
  | .small => window.smallIcon

/-- Windows with the same icons have the same ones in each slot. -/
theorem icon?_congr {a b : Window} (hbig : a.bigIcon = b.bigIcon)
    (hsmall : a.smallIcon = b.smallIcon) (slot : IconClass) : a.icon? slot = b.icon? slot := by
  cases slot with
  | big => exact hbig
  | small => exact hsmall

@[simp] theorem icon?_setIcon (window : Window) (icon : IconHandle) (slot slot' : IconClass) :
    (window.setIcon icon slot).icon? slot' =
      if slot = slot' then some icon else window.icon? slot' := by
  cases slot <;> cases slot' <;> rfl

end Window

/-- The last icon that a list of assignments has for a slot of a window. -/
def lastIcon (w : WindowHandle) (slot : IconClass) (assignments : List IconAssignment) :
    Option IconHandle :=
  (assignments.filter fun a => a.window = w ∧ a.slot = slot).getLast?.map (·.icon)

/-- The later list decides, unless it has nothing for the slot. -/
theorem lastIcon_append (w : WindowHandle) (slot : IconClass) (earlier later : List IconAssignment) :
    lastIcon w slot (earlier ++ later) = (lastIcon w slot later).or (lastIcon w slot earlier) := by
  rw [lastIcon, List.filter_append, List.getLast?_append, Option.map_or]
  rfl

theorem lastIcon_singleton (w : WindowHandle) (slot : IconClass) (a : IconAssignment) :
    lastIcon w slot [a] = if a.window = w ∧ a.slot = slot then some a.icon else none := by
  simp only [lastIcon, List.filter_singleton]
  by_cases h : a.window = w ∧ a.slot = slot <;> simp [h]

namespace Desktop

variable {d : Desktop} {w : WindowHandle} {old : Window}

/-- A change that leaves slots alone. -/
theorem icon?_changeWindow (hold : d.window? w = some old) (v : WindowHandle)
    {change : Window → Window} (hhandle : ∀ window, (change window).handle = window.handle)
    (hslots : ∀ window slot, (change window).icon? slot = window.icon? slot) :
    ∃ new, (d.changeWindow v change).window? w = some new ∧
      ∀ slot, new.icon? slot = (lastIcon w slot []).or (old.icon? slot) := by
  rw [window?_changeWindow d v w change hhandle]
  by_cases hv : w = v
  · subst hv
    exact ⟨change old, by simp [hold], fun slot => hslots old slot⟩
  · exact ⟨old, by simp [hv, hold], fun _ => rfl⟩

/-- **An action puts into a slot what it assigns to it**, and else leaves the slot alone. -/
theorem icon?_perform (hold : d.window? w = some old) {action : DesktopAction}
    (hkeep : action ≠ .destroyWindow w) :
    ∃ new, (d.perform action).1.window? w = some new ∧
      ∀ slot, new.icon? slot = (lastIcon w slot action.assignment?.toList).or (old.icon? slot) := by
  cases action with
  | addWindow bounds style =>
    refine ⟨old, ?_, fun _ => rfl⟩
    show (d.addWindow bounds style).2.window? w = some old
    rw [window?_addWindow, hold, Option.some_or]
  | destroyWindow v =>
    have hv : w ≠ v := by
      rintro rfl
      exact hkeep rfl
    refine ⟨old, ?_, fun _ => rfl⟩
    show (d.destroyWindow v).window? w = some old
    rw [window?_destroyWindow, if_neg hv, hold]
  | setIcon v slot icon =>
    show ∃ new, (d.setIcon v slot icon).window? w = some new ∧ ∀ slot', new.icon? slot' =
      (lastIcon w slot' [⟨v, slot, icon⟩]).or (old.icon? slot')
    simp only [window?_setIcon, lastIcon_singleton]
    by_cases hv : w = v
    · subst hv
      refine ⟨old.setIcon icon slot, by simp [hold], fun slot' => ?_⟩
      rw [old.icon?_setIcon]
      by_cases hslot : slot = slot' <;> simp [hslot]
    · exact ⟨old, by simp [hv, hold], by simp [Ne.symm hv]⟩
  | failWindowBounds v =>
    exact icon?_changeWindow hold v (fun _ => rfl) fun _ => Window.icon?_congr rfl rfl
  | move v origin => exact icon?_changeWindow hold v (fun _ => rfl) fun _ => Window.icon?_congr rfl rfl
  | resize v x y => exact icon?_changeWindow hold v (fun _ => rfl) fun _ => Window.icon?_congr rfl rfl
  | setStyle v style =>
    exact icon?_changeWindow hold v (fun _ => rfl) fun _ => Window.icon?_congr rfl rfl
  | _ => exact ⟨old, hold, fun _ => rfl⟩

theorem icon?_performAll (hold : d.window? w = some old) {actions : List DesktopAction}
    (hkeep : .destroyWindow w ∉ actions) :
    ∃ new, (d.performAll actions).window? w = some new ∧ ∀ slot, new.icon? slot =
      (lastIcon w slot (actions.filterMap DesktopAction.assignment?)).or (old.icon? slot) := by
  induction actions generalizing d old with
  | nil => exact ⟨old, hold, fun _ => rfl⟩
  | cons action rest ih =>
    rw [List.mem_cons, not_or] at hkeep
    obtain ⟨next, hnext, hicon⟩ := icon?_perform hold (Ne.symm hkeep.1)
    obtain ⟨new, hnew, hicons⟩ := ih hnext hkeep.2
    refine ⟨new, hnew, fun slot => ?_⟩
    have hsplit : (action :: rest).filterMap DesktopAction.assignment? =
        action.assignment?.toList ++ rest.filterMap DesktopAction.assignment? := by
      cases haction : action.assignment? <;> simp [haction]
    rw [hicons slot, hicon slot, hsplit, lastIcon_append, Option.or_assoc]

end Desktop

namespace Session

variable {s : Session} {w : WindowHandle} {old : Window}

/-- Windows are destroyed by the step that says so, and by no adapter. -/
theorem destroyWindow_mem_changes {step : Step} (h : .destroyWindow w ∈ s.changes step) :
    step = .desktop (.destroyWindow w) := by
  cases step with
  | desktop action => rw [List.mem_singleton.mp h]
  | adapter index action =>
    simp only [changes] at h
    split at h
    · cases h
    · cases Adapter.isRequestFor_of_mem_requests h
  | _ => cases h

/-- A step puts into a slot what it assigns to it last, and else leaves the slot alone. -/
theorem icon?_step (hold : s.desktop.window? w = some old) {step : Step}
    (hkeep : step ≠ .desktop (.destroyWindow w)) :
    ∃ new, (s.step step).1.desktop.window? w = some new ∧
      ∀ slot, new.icon? slot = (lastIcon w slot (s.newAssignments step)).or (old.icon? slot) := by
  rw [desktop_step, newAssignments_eq]
  exact Desktop.icon?_performAll hold fun h => hkeep (destroyWindow_mem_changes h)

/-- **A run leaves in a slot the last icon that it assigned to it**, if it did, of a window that it
does not destroy. -/
theorem icon?_after (hold : s.desktop.window? w = some old) {steps : List Step}
    (hkeep : .desktop (.destroyWindow w) ∉ steps) :
    ∃ new, (s.after steps).desktop.window? w = some new ∧
      ∀ slot, new.icon? slot = (lastIcon w slot (s.assigned steps)).or (old.icon? slot) := by
  induction steps generalizing s old with
  | nil => exact ⟨old, hold, fun _ => rfl⟩
  | cons step rest ih =>
    rw [List.mem_cons, not_or] at hkeep
    obtain ⟨next, hnext, hicon⟩ := icon?_step hold (Ne.symm hkeep.1)
    obtain ⟨new, hnew, hicons⟩ := ih hnext hkeep.2
    refine ⟨new, hnew, fun slot => ?_⟩
    rw [hicons slot, hicon slot, assigned, lastIcon_append, Option.or_assoc]

end Session

/-! ## Adapters -/

/-- The icon at hand for a slot. -/
def IconCache.icon? (c : IconCache) : IconClass → Option IconHandle
  | .big => c.icons?.bind (·.large)
  | .small => c.icons?.bind (·.small)

/-- The slots get the icons of the pair at hand, each its own. -/
theorem lastIcon_assignedTo (c : IconCache) (w : WindowHandle) (slot : IconClass) :
    lastIcon w slot (c.assignedTo w) = c.icon? slot := by
  cases c with
  | notLoaded => cases slot <;> rfl
  | loaded icons =>
    obtain ⟨large, small⟩ := icons
    rw [IconCache.assignedTo_loaded, lastIcon_append]
    cases large <;> cases small <;> cases slot <;> simp [lastIcon, IconCache.icon?, IconCache.icons?]

namespace Session

/-- A window that an adapter puts its icons on has them, and keeps what it had in a slot for which
there is no icon. -/
theorem icon?_step_of_dresses {s : Session} {index : Nat} {a : Adapter} {action : DecoratorAction}
    {w : WindowHandle} {old : Window} (ha : s.adapters[index]? = some a)
    (hdresses : a.dresses? action = some w) (hold : s.desktop.window? w = some old) :
    ∃ new, (s.step (.adapter index action)).1.desktop.window? w = some new ∧ ∀ slot, new.icon? slot =
      ((a.next s.program s.desktop action).decorator.icons.icon? slot).or (old.icon? slot) := by
  have hkeep : Step.adapter index action ≠ .desktop (.destroyWindow w) := by simp
  obtain ⟨new, hnew, hicon⟩ := icon?_step hold hkeep
  refine ⟨new, hnew, fun slot => ?_⟩
  rw [hicon slot, newAssignments_adapter ha, hdresses, Option.map_some, Option.getD_some,
    lastIcon_assignedTo]

/-! ## Windows that a run created -/

/-- What every run makes sure of about slots. -/
structure SlotsShowLast (s : Session) (steps : List Step) : Prop where
  /-- A window has in its slots what was assigned to them last since it was created. -/
  slots : ∀ {w window}, (s.after steps).desktop.window? w = some window →
    ∃ earlier bounds style later, steps = earlier ++ .desktop (.addWindow bounds style) :: later ∧
      ((s.after earlier).desktop.addWindow bounds style).1 = w ∧
      .desktop (.destroyWindow w) ∉ later ∧
      ∃ since, (s.after steps).desktop.assignments =
          (s.after earlier).desktop.assignments ++ since ∧
        window.bigIcon = lastIcon w .big since ∧ window.smallIcon = lastIcon w .small since
  /-- An icon that is put into one slot of a window leaves the other slot alone. -/
  other_slot : ∀ {w window} slot icon, (s.after steps).desktop.window? w = some window →
    ∃ new, ((s.after steps).desktop.setIcon w slot icon).window? w = some new ∧
      new.icon? slot = some icon ∧ ∀ other, other ≠ slot → new.icon? other = window.icon? other
  /-- It leaves every other window alone. -/
  other_window : ∀ {v w} slot icon, v ≠ w →
    ((s.after steps).desktop.setIcon w slot icon).window? v = (s.after steps).desktop.window? v
  /-- An adapter that puts its icons on a window leaves a slot alone for which it has none. -/
  dressed : ∀ {index a action w window}, (s.after steps).adapters[index]? = some a →
    a.dresses? action = some w → (s.after steps).desktop.window? w = some window →
      ∃ new, (s.after (steps ++ [.adapter index action])).desktop.window? w = some new ∧
        let icons := (a.next s.program (s.after steps).desktop action).decorator.icons
        new.bigIcon = (icons.icon? .big).or window.bigIcon ∧
          new.smallIcon = (icons.icon? .small).or window.smallIcon

/-- **Slots show what was assigned last**, whatever was assigned before to a handle that did not name
a window yet. -/
theorem slotsShowLast_after (program : ProgramFile) (steps : List Step)
    (hfew : additions steps < 2 ^ 60) : (new program).SlotsShowLast steps := by
  constructor
  case slots =>
    intro w window hwindow
    have hlive := (window?_isSome_iff_live program steps w).mp (hwindow ▸ rfl)
    obtain ⟨later, ⟨earlier, step, rfl, bounds, style, rfl, hw⟩, hkeep⟩ := hlive
    refine ⟨earlier, bounds, style, later, rfl, hw, hkeep, ?_⟩
    rw [additions_append] at hfew
    have hfew' : additions earlier < 2 ^ 60 := by omega
    have hfresh := nextHandle_notMem_raws program hfew'
    let made := ((new program).after earlier).step (.desktop (.addWindow bounds style))
    have hmade : made.1.desktop.window? w = some (.fresh w bounds style) := by
      have hadded := Desktop.window?_addWindow_of_fresh hfresh bounds style w
      rw [if_pos hw.symm, hw] at hadded
      exact hadded
    obtain ⟨last, hlast, hicons⟩ := icon?_after hmade hkeep
    have hafter : (new program).after (earlier ++ .desktop (.addWindow bounds style) :: later) =
        made.1.after later := by
      rw [after_append, after_cons]
    rw [hafter] at hwindow ⊢
    obtain rfl := Option.some.inj (hlast.symm.trans hwindow)
    -- the slots of a fresh window are empty
    have hempty : ∀ slot, (Window.fresh w bounds style).icon? slot = none := by
      intro slot
      cases slot <;> rfl
    simp only [hempty, Option.or_none] at hicons
    exact ⟨made.1.assigned later, assignments_after made.1 later, hicons .big, hicons .small⟩
  case other_slot =>
    intro w window slot icon hwindow
    refine ⟨window.setIcon icon slot, by simp [hwindow], ?_, ?_⟩
    · rw [window.icon?_setIcon, if_pos rfl]
    · intro other hother
      rw [window.icon?_setIcon, if_neg (Ne.symm hother)]
  case other_window =>
    intro v w slot icon hv
    rw [Desktop.window?_setIcon, if_neg hv]
  case dressed =>
    intro index a action w window ha hdresses hwindow
    obtain ⟨last, hlast, hicons⟩ := icon?_step_of_dresses ha hdresses hwindow
    rw [program_after] at hicons
    rw [after_snoc]
    exact ⟨last, hlast, hicons .big, hicons .small⟩

/-- A run that puts an icon on a number before it is given out.  The window that then has it shows
what was assigned to it as a window: a big icon from an adapter that has no small one, and a small
icon of its own. -/
theorem slotsShowLast_forged :
    let icon : IconHandle := ⟨7, by decide⟩
    let steps : List Step :=
      [.desktop (.setIcon ⟨0x10004⟩ .big icon), .desktop (.setIcon ⟨0x10004⟩ .small icon),
        .desktop (.addWindow ⟨⟨0, 400⟩, ⟨0, 300⟩⟩ .overlapped),
        .desktop (.addIcons ⟨"launcher"⟩ ⟨1, .ofRaw 8 0⟩),
        .newAdapter .reporting (.ok .default),
        .desktop (.setIcon ⟨0x10004⟩ .small ⟨9, by decide⟩), .adapter 0 (.prepare ⟨0x10004⟩)]
    additions steps < 2 ^ 60 ∧ (new (.ok ⟨"launcher"⟩)).SlotsShowLast steps ∧
      (((new (.ok ⟨"launcher"⟩)).after steps).desktop.window? ⟨0x10004⟩).map
          (fun window => (window.bigIcon.map (·.raw), window.smallIcon.map (·.raw))) =
        some (some 8, some 9) := by
  intro icon steps
  have hfew : additions steps < 2 ^ 60 := by decide
  exact ⟨hfew, slotsShowLast_after (.ok ⟨"launcher"⟩) steps hfew, by decide⟩

end Session

end WindowDecor
