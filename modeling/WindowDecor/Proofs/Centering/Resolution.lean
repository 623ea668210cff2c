import WindowDecor.Proofs.Centering.Halving
import WindowDecor.Proofs.Centering.Outcome
import WindowDecor.Proofs.Session.Handles

/-!
# Which monitor a window is on

A window is on the first monitor that shows its middle.  Here "first" is read off the run that added
the monitors, so that it does not depend on how the desktop keeps them.

* `Rect.contains_center` — a rectangle that is not empty contains its middle, at every coordinate.
* `layout` — the monitors that a run adds, in order, and `Session.map_screens_after` that the
  desktop has just these.
* `Session.FirstAdded` — the first of them with a given property, and
  **`Session.exists_firstAdded`** that it is the one that is found.
* **`Session.monitorsResolved_after`** — what follows for windows (`Session.MonitorsResolved`).

Where monitors do not overlap at most one of them shows a point, so their order does not matter.
-/

namespace WindowDecor

/-! ## Middles -/

/-- A rectangle with pixels in it contains its own center. -/
theorem Rect.contains_center {r : Rect} (hwide : r.left < r.right) (htall : r.top < r.bottom) :
    r.Contains r.center :=
  ⟨Interval.contains_midpoint hwide, Interval.contains_midpoint htall⟩

theorem Rect.Disjoint.symm {r s : Rect} (h : r.Disjoint s) : s.Disjoint r :=
  fun p hs hr => h p hr hs

/-! ## The monitors of a desktop -/

namespace Desktop

/-- The first monitor whose geometry has a property. -/
def firstMonitor? (d : Desktop) (p : Rect → Bool) : Option MonitorHandle :=
  (d.screens.find? fun screen => p screen.2.1).map (·.1)

theorem firstMonitor?_eq (d : Desktop) (p : Rect → Bool) :
    d.firstMonitor? p = (d.monitors.find? fun m => p m.geometry).map (·.handle) := by
  rw [firstMonitor?, screens, List.find?_map, Option.map_map]
  rfl

@[simp] theorem firstMonitor?_true (d : Desktop) :
    (d.firstMonitor? fun _ => true) = d.monitors.head?.map (·.handle) := by
  rw [firstMonitor?_eq]
  cases d.monitors <;> rfl

/-- A window that is there is on the first monitor that shows its middle, and else on the first. -/
theorem monitorOf?_of_window? {d : Desktop} {w : WindowHandle} {window : Window}
    (hwindow : d.window? w = some window) : d.monitorOf? w =
      (d.firstMonitor? fun g => g.Contains window.bounds.center).or
        (d.firstMonitor? fun _ => true) := by
  rw [firstMonitor?_true, firstMonitor?_eq]
  simp only [monitorOf?, hwindow, Option.bind_some, Option.map_or]

/-- A window that is not there counts as on the first monitor of all. -/
theorem monitorOf?_of_gone {d : Desktop} {w : WindowHandle} (hgone : d.window? w = none) :
    d.monitorOf? w = d.firstMonitor? fun _ => true := by
  simp [monitorOf?, hgone]

/-- Only a window's bounds matter, not whether they can be read. -/
theorem monitorOf?_congr {d d' : Desktop} {w : WindowHandle} (hscreens : d.screens = d'.screens)
    (hbounds : (d.window? w).map (·.bounds) = (d'.window? w).map (·.bounds)) :
    d.monitorOf? w = d'.monitorOf? w := by
  have hfirst : ∀ p, d.firstMonitor? p = d'.firstMonitor? p := by
    intro p
    rw [firstMonitor?, hscreens, firstMonitor?]
  cases hwindow : d.window? w with
  | none =>
    rw [hwindow, Option.map_none, eq_comm, Option.map_eq_none_iff] at hbounds
    rw [monitorOf?_of_gone hwindow, monitorOf?_of_gone hbounds, hfirst]
  | some window =>
    rw [hwindow, Option.map_some, eq_comm, Option.map_eq_some_iff] at hbounds
    obtain ⟨window', hwindow', hsame⟩ := hbounds
    rw [monitorOf?_of_window? hwindow, monitorOf?_of_window? hwindow', hsame, hfirst, hfirst]

end Desktop

/-! ## The monitors of a run -/

/-- The geometry and the work area of the monitor that a step adds. -/
def Step.layout? : Step → Option (Rect × Rect)
  | .desktop (.addMonitor geometry workArea) => some (geometry, workArea)
  | _ => none

/-- The geometries and work areas of the monitors that are added, in order. -/
def layout (steps : List Step) : List (Rect × Rect) := steps.filterMap Step.layout?

/-- Only a step that adds a monitor brings one in. -/
theorem Step.layout?_eq_some {step : Step} {geometry workArea : Rect} :
    step.layout? = some (geometry, workArea) ↔
      step = .desktop (.addMonitor geometry workArea) := by
  constructor
  · intro h
    cases step with
    | desktop action =>
      cases action with
      | addMonitor geometry' workArea' =>
        obtain ⟨rfl, rfl⟩ := Prod.mk.inj (Option.some.inj h)
        rfl
      | _ => cases h
    | _ => cases h
  · rintro rfl
    rfl

theorem mem_layout {steps : List Step} {geometry workArea : Rect} :
    (geometry, workArea) ∈ layout steps ↔
      .desktop (.addMonitor geometry workArea) ∈ steps := by
  simp [layout, List.mem_filterMap, Step.layout?_eq_some]

@[simp] theorem layout_cons (step : Step) (steps : List Step) :
    layout (step :: steps) = step.layout?.toList ++ layout steps := by
  rw [layout, List.filterMap_cons]
  cases step.layout? <;> rfl

theorem forall_mem_layout_cons {step : Step} {steps : List Step} {q : Rect × Rect → Prop} :
    (∀ screen ∈ layout (step :: steps), q screen) ↔
      (∀ screen, step.layout? = some screen → q screen) ∧ ∀ screen ∈ layout steps, q screen := by
  simp only [layout_cons, List.forall_mem_append, Option.mem_toList]

namespace Session

variable (s : Session) (steps : List Step)

/-- A step adds its monitor at the end, under the next number. -/
theorem screens_step (step : Step) : (s.step step).1.desktop.screens =
    s.desktop.screens ++
      (step.layout?.map fun screen => (⟨s.desktop.nextHandle⟩, screen)).toList := by
  rcases view_step (·.screens) Desktop.screens_request s step with ⟨action, rfl⟩ | ⟨hother, hsame⟩
  · show (s.desktop.perform action).1.screens = _
    rw [Desktop.screens_perform]
    cases action <;> rfl
  · have hnone : step.layout? = none := by
      cases step with
      | desktop action => exact absurd rfl (hother action)
      | _ => rfl
    rw [hsame, hnone]
    exact (List.append_nil _).symm

/-- **The monitors are those that were added**, in that order. -/
theorem map_screens_after : (s.after steps).desktop.screens.map (·.2) =
    s.desktop.screens.map (·.2) ++ layout steps := by
  induction steps generalizing s with
  | nil => exact (List.append_nil _).symm
  | cons step rest ih =>
    have hstep : (step.layout?.map fun screen =>
        ((⟨s.desktop.nextHandle⟩ : MonitorHandle), screen)).toList.map (·.2) =
          step.layout?.toList := by
      cases step.layout? <;> rfl
    rw [after_cons, ih, screens_step, List.map_append, hstep, layout_cons, List.append_assoc]

/-- `m` is the monitor that a run added first, of those whose geometry has a property. -/
def FirstAdded (p : Rect → Bool) (m : MonitorHandle) : Prop :=
  ∃ earlier geometry workArea later,
    steps = earlier ++ .desktop (.addMonitor geometry workArea) :: later ∧
      ((s.after earlier).desktop.addMonitor geometry workArea).1 = m ∧ p geometry ∧
      ∀ screen ∈ layout earlier, ¬ p screen.1

/-- `m` is the monitor that a run added with this geometry and this work area. -/
def Added (geometry workArea : Rect) (m : MonitorHandle) : Prop :=
  ∃ earlier later, steps = earlier ++ .desktop (.addMonitor geometry workArea) :: later ∧
    ((s.after earlier).desktop.addMonitor geometry workArea).1 = m

variable {s steps}

theorem exists_added {geometry workArea : Rect} (h : (geometry, workArea) ∈ layout steps) :
    ∃ m, s.Added steps geometry workArea m := by
  obtain ⟨earlier, later, rfl⟩ := List.append_of_mem (mem_layout.mp h)
  exact ⟨_, earlier, later, rfl, rfl⟩

theorem FirstAdded.exists_mem {p : Rect → Bool} {m : MonitorHandle} (h : s.FirstAdded steps p m) :
    ∃ screen ∈ layout steps, p screen.1 := by
  obtain ⟨earlier, geometry, workArea, later, rfl, -, hp, -⟩ := h
  exact ⟨(geometry, workArea), mem_layout.mpr (List.mem_append_right _ List.mem_cons_self), hp⟩

/-- Monitors that come later do not change which one is the first. -/
theorem firstMonitor?_after_of_some {p : Rect → Bool} {m : MonitorHandle}
    (hm : s.desktop.firstMonitor? p = some m) (steps : List Step) :
    (s.after steps).desktop.firstMonitor? p = some m := by
  obtain ⟨later, hlater⟩ := s.screens_prefix_after steps
  obtain ⟨screen, hscreen, rfl⟩ := Option.map_eq_some_iff.mp hm
  rw [Desktop.firstMonitor?, ← hlater, List.find?_append, hscreen]
  rfl

/-- A step without a fitting monitor does not bring one about. -/
theorem firstMonitor?_step_of_none {p : Rect → Bool} (hnone : s.desktop.firstMonitor? p = none)
    (step : Step) : (s.step step).1.desktop.firstMonitor? p =
      (step.layout?.filter fun screen => p screen.1).map fun _ => ⟨s.desktop.nextHandle⟩ := by
  rw [Desktop.firstMonitor?, Option.map_eq_none_iff] at hnone
  rw [Desktop.firstMonitor?, screens_step, List.find?_append, hnone, Option.none_or]
  cases step.layout? with
  | none => rfl
  | some screen => by_cases hp : p screen.1 <;> simp [hp, Option.filter]

/-- Where no monitor will do yet, one that does is found under the number it is given. -/
theorem firstMonitor?_step_of_added {p : Rect → Bool} {geometry : Rect}
    (hnone : s.desktop.firstMonitor? p = none) (hp : p geometry) (workArea : Rect) :
    (s.step (.desktop (.addMonitor geometry workArea))).1.desktop.firstMonitor? p =
      some ⟨s.desktop.nextHandle⟩ := by
  rw [firstMonitor?_step_of_none hnone]
  simp [Step.layout?, Option.filter, hp]

/-- Steps without such a monitor may come before. -/
theorem FirstAdded.cons {p : Rect → Bool} {m : MonitorHandle} {step : Step}
    (hstep : ∀ screen, step.layout? = some screen → ¬ p screen.1)
    (h : (s.step step).1.FirstAdded steps p m) : s.FirstAdded (step :: steps) p m := by
  obtain ⟨earlier, geometry, workArea, later, rfl, hm, hp, hnone⟩ := h
  exact ⟨step :: earlier, geometry, workArea, later, rfl, hm, hp, forall_mem_layout_cons.mpr
    ⟨hstep, hnone⟩⟩

/-- **The first monitor of a kind is the one that was added first**, if any was. -/
theorem exists_firstAdded (steps : List Step) {p : Rect → Bool}
    (hnone : s.desktop.firstMonitor? p = none) :
    (∃ m, s.FirstAdded steps p m ∧ (s.after steps).desktop.firstMonitor? p = some m) ∨
      (∀ screen ∈ layout steps, ¬ p screen.1) ∧ (s.after steps).desktop.firstMonitor? p = none := by
  induction steps generalizing s with
  | nil => exact .inr ⟨fun _ h => absurd h List.not_mem_nil, hnone⟩
  | cons step rest ih =>
    rw [after_cons]
    by_cases hadds : ∃ geometry workArea,
        step = .desktop (.addMonitor geometry workArea) ∧ p geometry
    · obtain ⟨geometry, workArea, rfl, hp⟩ := hadds
      have hfound := firstMonitor?_step_of_added hnone hp workArea
      refine .inl ⟨⟨s.desktop.nextHandle⟩, ?_, firstMonitor?_after_of_some hfound rest⟩
      exact ⟨[], geometry, workArea, rest, rfl, rfl, hp, fun _ h => absurd h List.not_mem_nil⟩
    · have hstep : ∀ screen, step.layout? = some screen → ¬ p screen.1 := fun screen hscreen hp =>
        hadds ⟨screen.1, screen.2, Step.layout?_eq_some.mp hscreen, hp⟩
      have hstill : (s.step step).1.desktop.firstMonitor? p = none := by
        rw [firstMonitor?_step_of_none hnone, Option.map_eq_none_iff, Option.filter_eq_none_iff]
        exact hstep
      rcases ih hstill with ⟨m, hm, hfound⟩ | ⟨hnever, hnot⟩
      · exact .inl ⟨m, hm.cons hstep, hfound⟩
      · exact .inr ⟨forall_mem_layout_cons.mpr ⟨hstep, hnever⟩, hnot⟩

/-- So the monitor that was added first of a kind is the one that is found. -/
theorem firstMonitor?_of_firstAdded {p : Rect → Bool} {m : MonitorHandle}
    (hnone : s.desktop.firstMonitor? p = none) (h : s.FirstAdded steps p m) :
    (s.after steps).desktop.firstMonitor? p = some m := by
  obtain ⟨earlier, geometry, workArea, later, rfl, rfl, hp, hbefore⟩ := h
  have hstill : (s.after earlier).desktop.firstMonitor? p = none := by
    rcases exists_firstAdded earlier hnone with ⟨m, hm, -⟩ | ⟨-, hnot⟩
    · obtain ⟨screen, hscreen, hfits⟩ := hm.exists_mem
      exact absurd hfits (hbefore screen hscreen)
    · exact hnot
  rw [after_append, after_cons]
  exact firstMonitor?_after_of_some (firstMonitor?_step_of_added hstill hp workArea) later

/-- Where monitors do not overlap, a monitor that shows a point is the first that does. -/
theorem Added.firstAdded {geometry workArea : Rect} {m : MonitorHandle}
    (h : s.Added steps geometry workArea m)
    (hapart : (layout steps).Pairwise fun a b => a.1.Disjoint b.1) {p : Point}
    (hp : geometry.Contains p) : s.FirstAdded steps (·.Contains p) m := by
  obtain ⟨earlier, later, rfl, rfl⟩ := h
  refine ⟨earlier, geometry, workArea, later, rfl, rfl, decide_eq_true hp, fun screen hscreen => ?_⟩
  have hlayout : layout (earlier ++ .desktop (.addMonitor geometry workArea) :: later) =
      layout earlier ++ (geometry, workArea) :: layout later := List.filterMap_append
  rw [hlayout, List.pairwise_append] at hapart
  intro hshows
  exact hapart.2.2 screen hscreen (geometry, workArea) List.mem_cons_self p
    (of_decide_eq_true hshows) hp

/-- Monitors that come later do not touch windows. -/
theorem window?_after_of_adds {later : List Step}
    (hadds : ∀ step ∈ later, ∃ geometry workArea, step = .desktop (.addMonitor geometry workArea))
    (w : WindowHandle) : (s.after later).desktop.window? w = s.desktop.window? w := by
  induction later generalizing s with
  | nil => rfl
  | cons step rest ih =>
    obtain ⟨geometry, workArea, rfl⟩ := hadds step List.mem_cons_self
    exact ih fun step hstep => hadds step (List.mem_cons_of_mem _ hstep)

/-! ## Windows on monitors -/

section

variable (program : ProgramFile)

/-- A desktop is without monitors just when none was added. -/
theorem monitors_after_eq_nil_iff :
    ((new program).after steps).desktop.monitors = [] ↔ layout steps = [] := by
  have hscreens := map_screens_after (new program) steps
  rw [Desktop.screens, List.map_map] at hscreens
  rw [← List.map_eq_nil_iff, hscreens]
  exact Iff.rfl

/-- The monitor that was added first of all. -/
theorem exists_firstAdded_true (hsome : ((new program).after steps).desktop.monitors ≠ []) :
    ∃ m, (new program).FirstAdded steps (fun _ => true) m ∧
      (((new program).after steps).desktop.firstMonitor? fun _ => true) = some m := by
  rcases exists_firstAdded (s := new program) steps (p := fun _ => true) rfl with
    hfound | ⟨hnever, -⟩
  · exact hfound
  · obtain ⟨screen, hscreen⟩ :=
      List.exists_mem_of_ne_nil _ (mt (monitors_after_eq_nil_iff program).mpr hsome)
    exact absurd rfl (hnever screen hscreen)

/-- A window whose middle a monitor shows, where monitors do not overlap. -/
theorem monitorOf?_of_added {geometry workArea : Rect} {m : MonitorHandle} {w : WindowHandle}
    {window : Window} (hwindow : ((new program).after steps).desktop.window? w = some window)
    (hadded : (new program).Added steps geometry workArea m)
    (hapart : (layout steps).Pairwise fun a b => a.1.Disjoint b.1)
    (hshows : geometry.Contains window.bounds.center) :
    ((new program).after steps).desktop.monitorOf? w = some m := by
  rw [Desktop.monitorOf?_of_window? hwindow,
    firstMonitor?_of_firstAdded rfl (hadded.firstAdded hapart hshows), Option.some_or]

end

/-- What every run makes sure of about windows and monitors. -/
structure MonitorsResolved (s : Session) (steps : List Step) : Prop where
  /-- A window is on the monitor that was added first of those that show its middle, and else on the
  one that was added first of all. -/
  live : ∀ {w}, s.Live steps w → (s.after steps).desktop.monitors ≠ [] →
    ∃ window, (s.after steps).desktop.window? w = some window ∧
      ((∃ m, s.FirstAdded steps (·.Contains window.bounds.center) m ∧
          (s.after steps).desktop.monitorOf? w = some m) ∨
        (∀ screen ∈ layout steps, ¬ screen.1.Contains window.bounds.center) ∧
          ∃ m, s.FirstAdded steps (fun _ => true) m ∧
            (s.after steps).desktop.monitorOf? w = some m)
  /-- It is there too if its bounds cannot be read. -/
  unreadable : ∀ v w, ((s.after steps).desktop.failWindowBounds v).monitorOf? w =
    (s.after steps).desktop.monitorOf? w
  /-- A handle that names no window is on the monitor that was added first. -/
  gone : ∀ {w}, ¬ s.Live steps w → (s.after steps).desktop.monitors ≠ [] →
    ∃ m, s.FirstAdded steps (fun _ => true) m ∧ (s.after steps).desktop.monitorOf? w = some m
  /-- A window whose middle is on a monitor stays on its monitor when others are added. -/
  more : ∀ {w window later}, (s.after steps).desktop.window? w = some window →
    (∃ screen ∈ layout steps, screen.1.Contains window.bounds.center) →
    (∀ step ∈ later, ∃ geometry workArea, step = .desktop (.addMonitor geometry workArea)) →
      (s.after (steps ++ later)).desktop.monitorOf? w = (s.after steps).desktop.monitorOf? w
  /-- Where monitors do not overlap it is on the same one in whatever order they are added. -/
  any_order : (layout steps).Pairwise (fun a b => a.1.Disjoint b.1) →
    ∀ {steps'}, (layout steps').Perm (layout steps) → ∀ {w w' window window'},
      (s.after steps).desktop.window? w = some window →
      (s.after steps').desktop.window? w' = some window' → window'.bounds = window.bounds →
      (∃ screen ∈ layout steps, screen.1.Contains window.bounds.center) →
        ∃ geometry workArea m m', s.Added steps geometry workArea m ∧
          s.Added steps' geometry workArea m' ∧
          (s.after steps).desktop.monitorOf? w = some m ∧
          (s.after steps').desktop.monitorOf? w' = some m'
  /-- There a window that is not empty is on the monitor that it lies on. -/
  inside : (layout steps).Pairwise (fun a b => a.1.Disjoint b.1) →
    ∀ {w window geometry workArea m}, (s.after steps).desktop.window? w = some window →
      s.Added steps geometry workArea m → window.bounds.left < window.bounds.right →
      window.bounds.top < window.bounds.bottom → window.bounds.Within geometry →
        (s.after steps).desktop.monitorOf? w = some m

/-- **The monitor that a window is on follows from the order in which monitors were added**, after
every run. -/
theorem monitorsResolved_after (program : ProgramFile) (steps : List Step) :
    (new program).MonitorsResolved steps := by
  constructor
  case live =>
    intro w hlive hsome
    obtain ⟨window, hwindow⟩ :=
      Option.isSome_iff_exists.mp ((window?_isSome_iff_live program steps w).mpr hlive)
    refine ⟨window, hwindow, ?_⟩
    rw [Desktop.monitorOf?_of_window? hwindow]
    rcases exists_firstAdded (s := new program) steps
      (p := (·.Contains window.bounds.center)) rfl with ⟨m, hm, hfound⟩ | ⟨hnever, hnot⟩
    · exact .inl ⟨m, hm, by rw [hfound, Option.some_or]⟩
    · obtain ⟨m, hm, hfound⟩ := exists_firstAdded_true program hsome
      refine .inr ⟨fun screen hscreen => ?_, m, hm, by rw [hnot, Option.none_or, hfound]⟩
      exact fun hshows => hnever screen hscreen (decide_eq_true hshows)
  case unreadable =>
    intro v w
    refine Desktop.monitorOf?_congr rfl ?_
    exact Desktop.view_changeWindow (·.bounds) _ v w (fun _ => rfl) fun _ _ => rfl
  case gone =>
    intro w hgone hsome
    have hnone : ((new program).after steps).desktop.window? w = none := by
      rw [← Option.not_isSome_iff_eq_none, window?_isSome_iff_live program steps w]
      exact hgone
    rw [Desktop.monitorOf?_of_gone hnone]
    exact exists_firstAdded_true program hsome
  case more =>
    intro w window later hwindow hshown hadds
    have hwindow' : ((new program).after (steps ++ later)).desktop.window? w = some window := by
      rw [after_append, window?_after_of_adds hadds, hwindow]
    rcases exists_firstAdded (s := new program) steps
      (p := (·.Contains window.bounds.center)) rfl with ⟨m, -, hfound⟩ | ⟨hnever, -⟩
    · have hstill := firstMonitor?_after_of_some hfound later
      rw [← after_append] at hstill
      rw [Desktop.monitorOf?_of_window? hwindow, Desktop.monitorOf?_of_window? hwindow', hfound,
        hstill, Option.some_or, Option.some_or]
    · obtain ⟨screen, hscreen, hshows⟩ := hshown
      exact absurd (decide_eq_true hshows) (hnever screen hscreen)
  case any_order =>
    intro hapart steps' hperm w w' window window' hwindow hwindow' hsame hshown
    obtain ⟨⟨geometry, workArea⟩, hscreen, hshows⟩ := hshown
    have hapart' : (layout steps').Pairwise fun a b => a.1.Disjoint b.1 :=
      hperm.symm.pairwise hapart fun hab => hab.symm
    obtain ⟨m, hm⟩ := exists_added (s := new program) hscreen
    obtain ⟨m', hm'⟩ := exists_added (s := new program) (hperm.symm.mem_iff.mp hscreen)
    refine ⟨geometry, workArea, m, m', hm, hm', ?_, ?_⟩
    · exact monitorOf?_of_added program hwindow hm hapart hshows
    · exact monitorOf?_of_added program hwindow' hm' hapart' (hsame ▸ hshows)
  case inside =>
    intro hapart w window geometry workArea m hwindow hadded hwide htall hin
    exact monitorOf?_of_added program hwindow hadded hapart
      (hin _ (Rect.contains_center hwide htall))

end Session

end WindowDecor
