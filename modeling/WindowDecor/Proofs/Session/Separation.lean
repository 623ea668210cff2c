import WindowDecor.Proofs.Session.Transcripts

/-!
# Windows do not notice each other

What is asked of adapters for one window leaves no trace on another: a run may be cut down to what
concerns one window, and neither that window nor the answers about it tell the difference.

What makes this more than a frame property is that a reporting adapter loads its icons when the first
window needs them.  Cutting that window out moves the load to a later one, and until then the two runs
have adapters in different states.  They are still alike in the state that matters, the one in which
each adapter is once it has loaded (`Adapter.settled`), for files do not change in the meantime.

One action does notice: `plainApplyIcons` takes the icons that a reporting adapter happens to have,
and does not leave it to the adapter to load them.  What it puts on a window can thus depend on
whether another window came first, and nothing but the window's icons can.

* `Window.seen`, `Desktop.SameFor` — a window with its icons or without, and two desktops that are the
  same for one window, as far as it is seen.
* `Call` — what is asked of an adapter; `Call.concerns` — it is about one window, or about none.
* `Session.Alike` — two sessions that are the same for one window.  **A call for another window makes
  no difference** (`Alike.step_left`), and a call that concerns the window keeps two sessions alike
  and has one answer in both (`Alike.step_both`).
* `Session.LooksInTime` — no icons are taken from an adapter that has them because of another window.
* **`Session.separated`** — cutting a run down, by induction over it: without the icons in every run
  (`Alike.run`), and with them in those in which looks come in time (`LooksInTime.alike`).
-/

namespace WindowDecor

/-! ## Windows with their icons and without -/

namespace Window

/-- The window without the icons in its slots. -/
def bare (window : Window) : Window := { window with bigIcon := none, smallIcon := none }

/-- What is seen of a window: all of it, or all but its icons. -/
def seen (icons : Bool) (window : Window) : Window := if icons then window else window.bare

/-- What is seen of a window after a request depends on what was seen of it before. -/
theorem seen_change (icons : Bool) (r : DesktopAction) (window : Window) :
    (r.change window).seen icons = (r.change (window.seen icons)).seen icons := by
  cases icons with
  | true => rfl
  | false =>
    cases r with
    | setIcon v slot icon => cases slot <;> rfl
    | _ => rfl

/-- Who does not look at icons does not see one being set. -/
@[simp] theorem seen_setIcon (window : Window) (icon : IconHandle) (slot : IconClass) :
    (window.setIcon icon slot).seen false = window.seen false := by
  cases slot <;> rfl

@[simp] theorem place_seen (icons : Bool) (window : Window) :
    (window.seen icons).place = window.place := by
  cases icons <;> rfl

@[simp] theorem style_seen (icons : Bool) (window : Window) :
    (window.seen icons).style = window.style := by
  cases icons <;> rfl

end Window

/-! ## Desktops that are the same for one window -/

namespace Desktop

/-- Two desktops on which everything that an adapter looks at for the window `w` is the same, with
the icons that the window shows or without them. -/
structure SameFor (icons : Bool) (w : WindowHandle) (d d' : Desktop) : Prop where
  monitors : d.monitors = d'.monitors
  resources : d.resources = d'.resources
  window : (d.window? w).map (·.seen icons) = (d'.window? w).map (·.seen icons)

namespace SameFor

variable {icons : Bool} {w : WindowHandle} {d d' d'' : Desktop}

theorem refl (icons : Bool) (w : WindowHandle) (d : Desktop) : SameFor icons w d d := ⟨rfl, rfl, rfl⟩

theorem symm (h : SameFor icons w d d') : SameFor icons w d' d :=
  ⟨h.monitors.symm, h.resources.symm, h.window.symm⟩

theorem trans (h : SameFor icons w d d') (h' : SameFor icons w d' d'') : SameFor icons w d d'' :=
  ⟨h.monitors.trans h'.monitors, h.resources.trans h'.resources, h.window.trans h'.window⟩

/-- Desktops that are the same for a window agree on whatever can be read off what is seen of it. -/
theorem view_eq {α : Type} (h : SameFor icons w d d') (view : Window → α)
    (hview : ∀ window, view (window.seen icons) = view window) :
    (d.window? w).map view = (d'.window? w).map view := by
  have hseen : view ∘ Window.seen icons = view := funext hview
  have hmap := congrArg (Option.map view) h.window
  simpa only [Option.map_map, hseen] using hmap

/-- Requests that are not for the window leave the desktop the same for it. -/
theorem performAll_of_other {target : Option WindowHandle} {requests : List DesktopAction}
    (hrequests : ∀ r ∈ requests, r.isRequestFor target) (hother : target ≠ some w) (d : Desktop) :
    SameFor icons w (d.performAll requests) d := by
  refine performAll_induction (motive := fun d' => SameFor icons w d' d) (refl icons w d) ?_
  intro r hr d' h
  have hfor := hrequests r hr
  refine ⟨(monitors_request d' hfor).trans h.monitors,
    (resources_request d' hfor).trans h.resources, ?_⟩
  rw [window?_request hfor, if_neg hother, h.window]

/-- The same requests keep two desktops the same. -/
theorem performAll {target : Option WindowHandle} {requests : List DesktopAction}
    (hrequests : ∀ r ∈ requests, r.isRequestFor target) (h : SameFor icons w d d') :
    SameFor icons w (d.performAll requests) (d'.performAll requests) := by
  induction requests generalizing d d' with
  | nil => exact h
  | cons r rest ih =>
    have hfor := hrequests r List.mem_cons_self
    refine ih (fun r hr => hrequests r (List.mem_cons_of_mem _ hr)) ⟨?_, ?_, ?_⟩
    · rw [monitors_request d hfor, monitors_request d' hfor, h.monitors]
    · rw [resources_request d hfor, resources_request d' hfor, h.resources]
    · rw [window?_request hfor, window?_request hfor]
      split
      · have hchange := h.view_eq (fun window => (r.change window).seen icons)
          fun window => (window.seen_change icons r).symm
        rw [Option.map_map, Option.map_map]
        exact hchange
      · exact h.window

/-- Icons make no difference to who does not see them. -/
theorem performAll_icons (decorator : Decorator) (d : Desktop) :
    SameFor false w (d.performAll (decorator.iconRequests w)) d := by
  refine performAll_induction (motive := fun d' => SameFor false w d' d) (refl false w d) ?_
  intro r hr d' h
  obtain ⟨assignment, -, rfl⟩ := List.mem_map.mp hr
  refine ⟨h.monitors, h.resources, ?_⟩
  have hicon : (Window.seen false ∘ fun window => window.setIcon assignment.2 assignment.1) =
      Window.seen false := funext fun window => window.seen_setIcon _ _
  have hwindow := d'.window?_setIcon w w assignment.1 assignment.2
  rw [if_pos rfl] at hwindow
  rw [← h.window, perform, hwindow, Option.map_map, hicon]

/-- The same icons come out of every file. -/
theorem iconsAt_eq (h : SameFor icons w d d') (path : FilePath) :
    d.iconsAt path = d'.iconsAt path := by
  simp only [iconsAt, h.resources]

theorem place?_eq (h : SameFor icons w d d') : d.place? w = d'.place? w :=
  h.view_eq Window.place (Window.place_seen icons)

theorem bounds_eq (h : SameFor icons w d d') : d.bounds w = d'.bounds w := by
  rw [bounds_eq_place?, bounds_eq_place?, h.place?_eq]

/-- Centering the window comes to the same, by the same requests. -/
theorem center_eq (h : SameFor icons w d d') :
    (center w d).1 = (center w d').1 ∧ d.centerRequests w = d'.centerRequests w :=
  center_congr h.monitors h.place?_eq

theorem fixStyleRequests_eq (h : SameFor icons w d d') :
    d.fixStyleRequests w = d'.fixStyleRequests w := by
  simp only [fixStyleRequests, style, h.view_eq Window.style (Window.style_seen icons)]

end SameFor

end Desktop

/-! ## Adapters that are the same once they have loaded -/

namespace Decorator

variable (d : Decorator) (program : ProgramFile) (desktop : Desktop)

/-- Getting ready looks at nothing of a desktop but the files. -/
theorem ready_congr {desktop desktop' : Desktop} (h : desktop.resources = desktop'.resources) :
    d.ready program desktop = d.ready program desktop' := by
  simp only [ready, loaded, Desktop.iconsAt, h]

/-- A load does not depend on the icons at hand before it. -/
theorem loaded_congr {e : Decorator} (h : d.settings = e.settings) :
    d.loaded program desktop = e.loaded program desktop := by
  simp [loaded, iconSource, giveUpIcons, h]

end Decorator

namespace Adapter

/-- The adapter as it is once it has loaded icons, if it is one that loads them by itself. -/
def settled (a : Adapter) (program : ProgramFile) (desktop : Desktop) : Adapter :=
  match a.kind with
  | .plain => a
  | .reporting => { a with decorator := a.decorator.ready program desktop }

variable {a b : Adapter} {program : ProgramFile} {desktop desktop' : Desktop}

/-- What an adapter settles to depends on the files alone. -/
theorem settled_congr (h : desktop.resources = desktop'.resources) :
    a.settled program desktop = a.settled program desktop' := by
  simp only [settled, a.decorator.ready_congr program h]

/-- What has settled stays as it is. -/
@[simp] theorem settled_settled : (a.settled program desktop).settled program desktop =
    a.settled program desktop := by
  obtain ⟨kind, d⟩ := a
  cases kind with
  | plain => rfl
  | reporting =>
    have hloaded := d.isLoaded_ready program desktop
    simp only [settled, Decorator.ready_of_isLoaded _ program desktop hloaded]

/-- An action for a window loads what would be loaded later anyway. -/
theorem settled_next_of_target {action : DecoratorAction} (htarget : action.target? ≠ none) :
    (a.next program desktop action).settled program desktop = a.settled program desktop := by
  have hsettled : ∀ w, a.next program desktop (.applyIcons w) = a.settled program desktop :=
    fun _ => rfl
  cases action with
  | applyIcons w => rw [hsettled w, settled_settled]
  | prepare w => exact settled_settled
  | loadIconsFrom path => exact absurd rfl htarget
  | loadOwnIcons => exact absurd rfl htarget
  | _ => rfl

/-- Adapters that settle alike have the same kind and settings; plain ones are the same. -/
theorem of_settled_eq (h : a.settled program desktop = b.settled program desktop) :
    a.kind = b.kind ∧ a.decorator.settings = b.decorator.settings ∧ (a.kind = .plain → a = b) := by
  obtain ⟨kind, d⟩ := a
  obtain ⟨kind', d'⟩ := b
  cases kind with
  | plain =>
    cases kind' with
    | plain =>
      obtain rfl : d = d' := congrArg Adapter.decorator h
      exact ⟨rfl, rfl, fun _ => rfl⟩
    | reporting => cases congrArg Adapter.kind h
  | reporting =>
    cases kind' with
    | plain => cases congrArg Adapter.kind h
    | reporting =>
      have hready : d.ready program desktop = d'.ready program desktop :=
        congrArg Adapter.decorator h
      have hsettings := congrArg Decorator.settings hready
      rw [Decorator.settings_ready, Decorator.settings_ready] at hsettings
      exact ⟨rfl, hsettings, by simp⟩

/-- Of two adapters that settle alike, both have loaded icons, and then the same, or one of them still
has to. -/
theorem icons_eq_of_settled_eq (h : a.settled program desktop = b.settled program desktop)
    (hloaded : a.decorator.icons.isLoaded = b.decorator.icons.isLoaded) :
    a.decorator.icons = b.decorator.icons := by
  obtain ⟨hkind, -, hplain⟩ := of_settled_eq h
  cases hk : a.kind with
  | plain => rw [hplain hk]
  | reporting =>
    simp only [settled, hk, ← hkind] at h
    have hready : a.decorator.ready program desktop = b.decorator.ready program desktop :=
      congrArg Adapter.decorator h
    cases hicons : a.decorator.icons with
    | loaded pair =>
      have ha : a.decorator.icons.isLoaded := by rw [hicons, IconCache.isLoaded]
      rw [Decorator.ready_of_isLoaded _ _ _ ha,
        Decorator.ready_of_isLoaded _ _ _ (hloaded ▸ ha)] at hready
      rw [← hicons, hready]
    | notLoaded =>
      rw [hicons] at hloaded
      cases hicons' : b.decorator.icons with
      | loaded pair => simp [hicons'] at hloaded
      | notLoaded => rfl

/-- Reporting adapters that settle alike have the same icons to put on a window. -/
theorem ready_eq_of_settled_eq (hk : a.kind = .reporting)
    (h : a.settled program desktop = b.settled program desktop)
    (hfiles : desktop.resources = desktop'.resources) :
    a.decorator.ready program desktop = b.decorator.ready program desktop' := by
  obtain ⟨hkind, -, -⟩ := of_settled_eq h
  rw [← b.decorator.ready_congr program hfiles]
  simp only [settled, hk, ← hkind] at h
  exact congrArg Adapter.decorator h

/-- What becomes of an adapter depends on the files of the desktop alone. -/
theorem next_congr (a : Adapter) (program : ProgramFile) (action : DecoratorAction)
    (h : desktop.resources = desktop'.resources) :
    a.next program desktop action = a.next program desktop' action := by
  obtain ⟨kind, d⟩ := a
  cases kind with
  | plain =>
    cases action with
    | loadIconsFrom path => simp only [next, Desktop.iconsAt, h]
    | _ => rfl
  | reporting =>
    cases action with
    | applyIcons w => simp only [next, d.ready_congr program h]
    | prepare w => simp only [next, d.ready_congr program h]
    | loadOwnIcons => simp only [next, Decorator.loaded, Desktop.iconsAt, h]
    | _ => rfl

/-- Adapters that settle alike do so after every action. -/
theorem settled_next_congr (h : a.settled program desktop = b.settled program desktop)
    (action : DecoratorAction) : (a.next program desktop action).settled program desktop =
      (b.next program desktop action).settled program desktop := by
  by_cases htarget : action.target? = none
  · obtain ⟨hkind, hsettings, hplain⟩ := of_settled_eq h
    cases hk : a.kind with
    | plain => rw [hplain hk]
    | reporting =>
      obtain ⟨kind, d⟩ := a
      obtain ⟨kind', d'⟩ := b
      obtain rfl : kind = .reporting := hk
      obtain rfl : .reporting = kind' := hkind
      cases action with
      | loadIconsFrom path => exact h
      | loadOwnIcons => simp only [next, d.loaded_congr program desktop hsettings]
      | _ => cases htarget
  · rw [settled_next_of_target htarget, settled_next_of_target htarget, h]

end Adapter

/-! ## What adapters do to a window -/

namespace Desktop.SameFor

variable {icons : Bool} {w : WindowHandle} {desktop desktop' : Desktop} {program : ProgramFile}

/-- A look for icons is for no window. -/
theorem ownIcons_left (d : Decorator) : SameFor icons w
    (desktop.performAll (d.ownIconRequests program desktop w))
    (desktop.performAll ((d.ready program desktop).iconRequests w)) := by
  rw [Decorator.ownIconRequests, performAll_append]
  refine performAll (fun r => Decorator.isRequestFor_of_mem_iconRequests) ?_
  split
  · exact refl icons w desktop
  · have hload : ∀ r ∈ d.loadRequests program, r.isRequestFor none :=
      fun r => Decorator.isRequestFor_of_mem_loadRequests
    exact performAll_of_other hload (by simp) desktop

/-- Decorators that are the same once they have loaded put the same icons on a window. -/
theorem ownIcons {d d' : Decorator} (h : SameFor icons w desktop desktop')
    (hready : d.ready program desktop = d'.ready program desktop') : SameFor icons w
      (desktop.performAll (d.ownIconRequests program desktop w))
      (desktop'.performAll (d'.ownIconRequests program desktop' w)) := by
  refine (ownIcons_left d).trans (.trans ?_ (ownIcons_left d').symm)
  rw [hready]
  exact h.performAll fun r => Decorator.isRequestFor_of_mem_iconRequests

/-- Fixing the window's frame on both desktops keeps them the same for it. -/
theorem fixStyle (h : SameFor icons w desktop desktop') : SameFor icons w
    (desktop.performAll (desktop.fixStyleRequests w))
    (desktop'.performAll (desktop'.fixStyleRequests w)) := by
  rw [h.fixStyleRequests_eq]
  exact h.performAll fun r => isRequestFor_of_mem_fixStyleRequests

theorem center (h : SameFor icons w desktop desktop') : SameFor icons w
    (desktop.performAll (desktop.centerRequests w))
    (desktop'.performAll (desktop'.centerRequests w)) := by
  rw [h.center_eq.2]
  exact h.performAll fun r => isRequestFor_of_mem_centerRequests

theorem prepare {d d' : Decorator} (h : SameFor icons w desktop desktop')
    (hready : d.ready program desktop = d'.ready program desktop') : SameFor icons w
      (desktop.performAll (d.prepareRequests program desktop w))
      (desktop'.performAll (d'.prepareRequests program desktop' w)) := by
  simp only [Decorator.prepareRequests, performAll_append]
  exact (h.ownIcons hready).fixStyle.center

/-- An adapter that is asked about another window leaves this one alone. -/
theorem requests_of_other (a : Adapter) (program : ProgramFile) (desktop : Desktop)
    {action : DecoratorAction} (hother : action.target? ≠ some w) :
    SameFor icons w (desktop.performAll (a.requests program desktop action)) desktop :=
  performAll_of_other (fun _ hr => Adapter.isRequestFor_of_mem_requests hr) hother desktop

/-- **Adapters that settle alike make the same of a window**, and of its icons too if they have the
same at hand when these are taken as they are. -/
theorem requests {a b : Adapter} (h : SameFor icons w desktop desktop')
    (hsettled : a.settled program desktop = b.settled program desktop)
    {action : DecoratorAction} (htarget : action.target? = some w)
    (hlook : icons → action = .plainApplyIcons w → a.decorator.icons = b.decorator.icons) :
    SameFor icons w
      (desktop.performAll (a.requests program desktop action))
      (desktop'.performAll (b.requests program desktop' action)) := by
  obtain ⟨hkind, hsettings, hplain⟩ := Adapter.of_settled_eq hsettled
  -- most actions come to the same requests on either side
  have hsame (hrequests : a.requests program desktop action = b.requests program desktop' action) :
      SameFor icons w (desktop.performAll (a.requests program desktop action))
        (desktop'.performAll (b.requests program desktop' action)) := by
    rw [← hrequests]
    exact h.performAll fun _ hr => Adapter.isRequestFor_of_mem_requests hr
  cases action with
  | width v => exact h
  | height v => exact h
  | resize v width height => exact hsame rfl
  | flash v => exact hsame (by simp only [Adapter.requests, hsettings])
  | setProgress bar state => exact hsame rfl
  | center v => cases htarget; exact h.center
  | plainCenter v => cases htarget; exact h.center
  | fixStyle v => cases htarget; exact h.fixStyle
  | plainApplyIcons v =>
    cases htarget
    cases icons with
    | true => exact hsame (by simp only [Adapter.requests, Decorator.iconRequests, hlook rfl rfl])
    | false => exact (performAll_icons _ _).trans (h.trans (performAll_icons _ _).symm)
  | loadIconsFrom path => cases htarget
  | loadOwnIcons => cases htarget
  | applyIcons v =>
    cases htarget
    cases hk : a.kind with
    | plain =>
      obtain rfl := hplain hk
      exact hsame (by simp only [Adapter.requests, hk])
    | reporting =>
      simp only [Adapter.requests, hk, ← hkind]
      exact h.ownIcons (Adapter.ready_eq_of_settled_eq hk hsettled h.resources)
  | prepare v =>
    cases htarget
    cases hk : a.kind with
    | plain =>
      simp only [Adapter.requests, hk, ← hkind]
      exact h
    | reporting =>
      simp only [Adapter.requests, hk, ← hkind]
      exact h.prepare (Adapter.ready_eq_of_settled_eq hk hsettled h.resources)

/-- Adapters that settle alike give the same answer about the window. -/
theorem answer {a b : Adapter} (h : SameFor icons w desktop desktop')
    (hsettled : a.settled program desktop = b.settled program desktop)
    {action : DecoratorAction} (htarget : action.target? = none ∨ action.target? = some w) :
    a.answer program desktop action = b.answer program desktop' action := by
  obtain ⟨hkind, hsettings, -⟩ := Adapter.of_settled_eq hsettled
  have hbounds := h.bounds_eq
  have hcenter := h.center_eq.1
  have hicons := h.iconsAt_eq
  have hwindow : ∀ v, action.target? = some v → v = w := by
    intro v hv
    rcases htarget with hnone | hsome
    · cases hnone.symm.trans hv
    · exact Option.some.inj (hv.symm.trans hsome)
  cases action with
  | width v =>
    obtain rfl := hwindow v rfl
    simp only [Adapter.answer, hbounds, hsettings]
  | height v =>
    obtain rfl := hwindow v rfl
    simp only [Adapter.answer, hbounds, hsettings]
  | center v =>
    obtain rfl := hwindow v rfl
    simp only [Adapter.answer, hkind, hcenter]
  | plainCenter v =>
    obtain rfl := hwindow v rfl
    simp only [Adapter.answer, hcenter]
  | loadIconsFrom path => simp only [Adapter.answer, hkind, hicons]
  | loadOwnIcons =>
    simp only [Adapter.answer, Desktop.countAt, Decorator.iconSource, hkind, hsettings, hicons]
  | prepare v => simp only [Adapter.answer, hkind]
  | _ => rfl

end Desktop.SameFor

/-! ## Sessions that are the same for one window -/

/-- Something that is asked of an adapter. -/
structure Call where
  adapter : Nat
  action : DecoratorAction
  deriving DecidableEq

namespace Call

/-- The step of a session in which something is asked. -/
def step (c : Call) : Step := .adapter c.adapter c.action

/-- Whether a call is about the given window, or about none. -/
def concerns (w : WindowHandle) (c : Call) : Bool := c.action.target?.all (· = w)

variable {w : WindowHandle} {c : Call}

/-- A call that concerns the window is about it, or about no window. -/
theorem target?_of_concerns (h : c.concerns w) :
    c.action.target? = none ∨ c.action.target? = some w := by
  unfold concerns at h
  cases htarget : c.action.target? with
  | none => exact .inl rfl
  | some v =>
    rw [htarget] at h
    exact .inr (congrArg some (of_decide_eq_true h))

theorem target?_ne_of_not_concerns (h : c.concerns w = false) :
    c.action.target? ≠ none ∧ c.action.target? ≠ some w := by
  constructor
  · intro htarget
    simp [concerns, htarget] at h
  · intro htarget
    simp [concerns, htarget] at h

end Call

namespace Session

/-- An adapter as it is once it has loaded. -/
def settled? (s : Session) (index : Nat) : Option Adapter :=
  s.adapters[index]?.map (·.settled s.program s.desktop)

/-- Two sessions that are the same for one window, as far as it is seen: so are their desktops, and
their adapters once they have loaded. -/
structure Alike (icons : Bool) (w : WindowHandle) (s t : Session) : Prop where
  program : s.program = t.program
  desktop : s.desktop.SameFor icons w t.desktop
  settled? : ∀ index, s.settled? index = t.settled? index

/-- Calls leave the files as they are. -/
theorem resources_step_call (s : Session) (c : Call) :
    (s.step c.step).1.desktop.resources = s.desktop.resources := by
  cases ha : s.adapters[c.adapter]? with
  | none => simp only [Call.step, step, ha]
  | some a =>
    rw [Call.step, step_adapter ha]
    refine Desktop.performAll_induction (motive := fun d => d.resources = s.desktop.resources) rfl ?_
    intro r hr d hd
    exact (Desktop.resources_request d (Adapter.isRequestFor_of_mem_requests hr)).trans hd

/-- After a call each adapter settles to what the called one comes to, or to what it did before. -/
theorem settled?_step_call (s : Session) (c : Call) (index : Nat) :
    (s.step c.step).1.settled? index = s.adapters[index]?.map fun a =>
      (if index = c.adapter then a.next s.program s.desktop c.action else a).settled s.program
        s.desktop := by
  have hfiles := resources_step_call s c
  simp only [Session.settled?, program_step, Adapter.settled_congr hfiles]
  cases ha : s.adapters[c.adapter]? with
  | none =>
    have hsame : (s.step c.step).1.adapters = s.adapters := by simp only [Call.step, step, ha]
    rw [hsame]
    split
    · next hindex => rw [hindex, ha]; rfl
    · rfl
  | some a =>
    obtain ⟨hlt, hget⟩ := List.getElem?_eq_some_iff.mp ha
    rw [Call.step, step_adapter ha, List.getElem?_set]
    by_cases hindex : index = c.adapter
    · simp [hindex, hlt, hget]
    · simp [hindex, Ne.symm hindex]

namespace Alike

variable {icons : Bool} {w : WindowHandle} {s t : Session}

theorem refl (icons : Bool) (w : WindowHandle) (s : Session) : Alike icons w s s :=
  ⟨rfl, .refl icons w _, fun _ => rfl⟩

/-- **A call for another window makes no difference.** -/
theorem step_left (h : Alike icons w s t) {c : Call} (hc : c.concerns w = false) :
    Alike icons w (s.step c.step).1 t := by
  obtain ⟨hsome, hother⟩ := Call.target?_ne_of_not_concerns hc
  refine ⟨(program_step s c.step).trans h.program, ?_, fun index => ?_⟩
  · cases ha : s.adapters[c.adapter]? with
    | none =>
      simp only [Call.step, step, ha]
      exact h.desktop
    | some a =>
      rw [Call.step, step_adapter ha]
      exact (Desktop.SameFor.requests_of_other a _ _ hother).trans h.desktop
  · rw [settled?_step_call, ← h.settled? index, Session.settled?]
    refine Option.map_congr fun a _ => ?_
    split
    · exact Adapter.settled_next_of_target hsome
    · rfl

/-- Alike sessions have an adapter under the same indices, and the two settle alike. -/
theorem adapters_cases (h : Alike icons w s t) (index : Nat) :
    (s.adapters[index]? = none ∧ t.adapters[index]? = none) ∨
      ∃ a b, s.adapters[index]? = some a ∧ t.adapters[index]? = some b ∧
        a.settled s.program s.desktop = b.settled s.program s.desktop := by
  have hadapter := h.settled? index
  simp only [Session.settled?, ← h.program, ← Adapter.settled_congr h.desktop.resources] at hadapter
  cases ha : s.adapters[index]? with
  | none =>
    rw [ha, Option.map_none, eq_comm, Option.map_eq_none_iff] at hadapter
    exact .inl ⟨rfl, hadapter⟩
  | some a =>
    rw [ha, Option.map_some, eq_comm, Option.map_eq_some_iff] at hadapter
    obtain ⟨b, hb, hsettled⟩ := hadapter
    exact .inr ⟨a, b, rfl, hb, hsettled.symm⟩

/-- After the same call on both sides, adapters still settle alike. -/
theorem settled?_step (h : Alike icons w s t) (c : Call) (index : Nat) :
    (s.step c.step).1.settled? index = (t.step c.step).1.settled? index := by
  rw [settled?_step_call, settled?_step_call]
  rcases h.adapters_cases index with ⟨ha, hb⟩ | ⟨a, b, ha, hb, hsettled⟩
  · rw [ha, hb]
    rfl
  · rw [ha, hb, Option.map_some, Option.map_some, ← h.program,
      ← Adapter.settled_congr h.desktop.resources,
      ← b.next_congr s.program c.action h.desktop.resources]
    split
    · rw [Adapter.settled_next_congr hsettled]
    · rw [hsettled]

/-- **A call that concerns the window keeps two sessions alike**, and has one answer in both.  Where
icons are seen and taken from an adapter as they are, it has to be known that it has loaded in both
or in neither. -/
theorem step_both (h : Alike icons w s t) {c : Call} (hc : c.concerns w)
    (hlook : icons → c.action = .plainApplyIcons w →
      s.profiles[c.adapter]? = t.profiles[c.adapter]?) :
    Alike icons w (s.step c.step).1 (t.step c.step).1 ∧
      (s.step c.step).2.result = (t.step c.step).2.result := by
  have hprogram : (s.step c.step).1.program = (t.step c.step).1.program := by
    rw [program_step, program_step, h.program]
  rcases h.adapters_cases c.adapter with ⟨ha, hb⟩ | ⟨a, b, ha, hb, hsettled⟩
  · refine ⟨⟨hprogram, ?_, h.settled?_step c⟩, ?_⟩
    · simp only [Call.step, step, ha, hb]
      exact h.desktop
    · simp only [Call.step, step, ha, hb]
  · refine ⟨⟨hprogram, ?_, h.settled?_step c⟩, ?_⟩
    · rw [Call.step, step_adapter ha, step_adapter hb, ← h.program]
      rcases Call.target?_of_concerns hc with htarget | htarget
      · have hother : c.action.target? ≠ some w := by simp [htarget]
        exact (Desktop.SameFor.requests_of_other a s.program s.desktop hother).trans
          (h.desktop.trans (Desktop.SameFor.requests_of_other b s.program t.desktop hother).symm)
      · refine h.desktop.requests hsettled htarget fun hicons haction => ?_
        have hprofile := hlook hicons haction
        rw [profiles_getElem?, profiles_getElem?, ha, hb] at hprofile
        exact Adapter.icons_eq_of_settled_eq hsettled
          (congrArg Profile.loaded (Option.some.inj hprofile))
    · rw [Call.step, step_adapter_eq ha, step_adapter_eq hb, ← h.program]
      exact congrArg StepResult.action (h.desktop.answer hsettled (Call.target?_of_concerns hc))

end Alike

/-! ## Cutting a run down -/

/-- The session after a list of calls. -/
def afterCalls (s : Session) (calls : List Call) : Session := s.after (calls.map Call.step)

theorem afterCalls_snoc (s : Session) (calls : List Call) (c : Call) :
    s.afterCalls (calls ++ [c]) = ((s.afterCalls calls).step c.step).1 := by
  rw [afterCalls, List.map_append, List.map_singleton, after_snoc, afterCalls]

/-- What is answered to a list of calls. -/
def answers (s : Session) (calls : List Call) : List StepResult :=
  (s.run (calls.map Call.step)).2.map (·.result)

/-- Those of the answers that belong to calls that concern one window. -/
def answersAbout (s : Session) (w : WindowHandle) (calls : List Call) : List StepResult :=
  ((calls.zip (s.answers calls)).filter (·.1.concerns w)).map (·.2)

theorem answersAbout_cons (s : Session) (w : WindowHandle) (c : Call) (calls : List Call) :
    s.answersAbout w (c :: calls) =
      if c.concerns w then
        (s.step c.step).2.result :: (s.step c.step).1.answersAbout w calls
      else (s.step c.step).1.answersAbout w calls := by
  have hanswers : s.answers (c :: calls) =
      (s.step c.step).2.result :: (s.step c.step).1.answers calls := rfl
  rw [answersAbout, hanswers, List.zip_cons_cons, List.filter_cons]
  split <;> rfl

/-- Alike sessions stay alike, but for the window's icons, when one of them goes through a whole run
and the other through what of it concerns the window, and the answers about it are the same. -/
theorem Alike.run {w : WindowHandle} {s t : Session} (h : Alike false w s t) (calls : List Call) :
    Alike false w (s.afterCalls calls) (t.afterCalls (calls.filter (·.concerns w))) ∧
      s.answersAbout w calls = t.answers (calls.filter (·.concerns w)) := by
  induction calls generalizing s t with
  | nil => exact ⟨h, rfl⟩
  | cons c calls ih =>
    rw [answersAbout_cons, List.filter_cons]
    cases hc : c.concerns w with
    | false => exact ih (h.step_left hc)
    | true =>
      obtain ⟨hnext, hresult⟩ := h.step_both hc (by simp)
      obtain ⟨hafter, hanswers⟩ := ih hnext
      exact ⟨hafter, congrArg₂ List.cons hresult hanswers⟩

/-! ## Icons that are taken as they are -/

/-- A search may leave out what `q` leaves out, if whatever it finds is there with `q` too. -/
theorem any_filter_eq {α : Type} {l : List α} {p q : α → Bool}
    (h : (∃ x ∈ l, p x) → ∃ x ∈ l, p x ∧ q x) : l.any p = (l.filter q).any p := by
  rw [Bool.eq_iff_iff]
  simp only [List.any_eq_true, List.mem_filter]
  constructor
  · intro hfound
    obtain ⟨x, hx, hp, hq⟩ := h hfound
    exact ⟨x, ⟨hx, hq⟩, hp⟩
  · rintro ⟨x, ⟨hx, -⟩, hp⟩
    exact ⟨x, hx, hp⟩

/-- What is known of an adapter after a list of calls: it has loaded if it had before, or if one of
the calls had it load. -/
theorem profiles_afterCalls (s : Session) (calls : List Call) (index : Nat) :
    (s.afterCalls calls).profiles[index]? = s.profiles[index]?.map fun p =>
      { p with loaded := p.loaded ||
          calls.any fun c => c.adapter = index && c.action.fills p.kind } := by
  induction calls using List.reverseRecOn with
  | nil => simp [afterCalls]
  | append_singleton calls c ih =>
    rw [afterCalls_snoc, profiles_step, Call.step, Step.profiles, List.getElem?_modify, ih]
    cases s.profiles[index]? with
    | none => simp
    | some p => by_cases hindex : c.adapter = index <;> simp [hindex, Profile.asked, Bool.or_assoc]

/-- In a run of calls, no window `w` is given icons that a reporting adapter happens to have because
of another window: where the icons are taken as they are, and the adapter had to load them for an
earlier call, it had to for one that concerns `w`. -/
def LooksInTime (s : Session) (w : WindowHandle) (calls : List Call) : Prop :=
  ∀ earlier look later d, calls = earlier ++ look :: later → look.action = .plainApplyIcons w →
    s.adapters[look.adapter]? = some ⟨.reporting, d⟩ → d.icons.isLoaded = false →
      (∃ c ∈ earlier, c.adapter = look.adapter ∧ c.action.needsIcons) →
        ∃ c ∈ earlier, c.adapter = look.adapter ∧ c.action.needsIcons ∧ c.concerns w

namespace LooksInTime

variable {s : Session} {w : WindowHandle} {calls : List Call}

/-- The beginning of a run of calls takes no more for granted than all of it. -/
theorem of_append {later : List Call} (h : s.LooksInTime w (calls ++ later)) :
    s.LooksInTime w calls := by
  rintro earlier look rest d rfl
  exact h earlier look (rest ++ later) d (by simp)

/-- An adapter that loads before a look at its icons does so for the window that is looked at. -/
theorem exists_fills {earlier later : List Call} {look : Call} {kind : AdapterKind} {d : Decorator}
    (h : s.LooksInTime w (earlier ++ look :: later)) (hlook : look.action = .plainApplyIcons w)
    (ha : s.adapters[look.adapter]? = some ⟨kind, d⟩) (hloaded : d.icons.isLoaded = false)
    (hfills : ∃ c ∈ earlier, c.adapter = look.adapter ∧ c.action.fills kind) :
    ∃ c ∈ earlier, (c.adapter = look.adapter ∧ c.action.fills kind) ∧ c.concerns w := by
  cases kind with
  | reporting =>
    obtain ⟨c, hc, hadapter, hfills, hconcerns⟩ := h earlier look later d rfl hlook ha hloaded hfills
    exact ⟨c, hc, ⟨hadapter, hfills⟩, hconcerns⟩
  | plain =>
    -- a plain adapter loads for no window
    obtain ⟨c, hc, hadapter, hfills⟩ := hfills
    refine ⟨c, hc, ⟨hadapter, hfills⟩, ?_⟩
    cases haction : c.action <;> simp_all [DecoratorAction.fills, Call.concerns,
      DecoratorAction.target?]

/-- At a look, the adapter has loaded in a run and in the run cut down, or in neither. -/
theorem profiles_eq {earlier later : List Call} {look : Call}
    (h : s.LooksInTime w (earlier ++ look :: later)) (hlook : look.action = .plainApplyIcons w) :
    (s.afterCalls earlier).profiles[look.adapter]? =
      (s.afterCalls (earlier.filter (·.concerns w))).profiles[look.adapter]? := by
  rw [profiles_afterCalls, profiles_afterCalls, profiles_getElem?]
  cases ha : s.adapters[look.adapter]? with
  | none => rfl
  | some a =>
    obtain ⟨kind, d⟩ := a
    cases hloaded : d.icons.isLoaded with
    | true => simp [Profile.of, hloaded]
    | false =>
      have hany := any_filter_eq (l := earlier) (q := (·.concerns w))
        (p := fun c => c.adapter = look.adapter && c.action.fills kind)
        (by simpa using h.exists_fills hlook ha hloaded)
      simp only [Option.map_some, Profile.of, hany]

/-- **Where looks come in time, cutting a run down is not noticed at all.** -/
theorem alike (h : s.LooksInTime w calls) :
    Alike true w (s.afterCalls calls) (s.afterCalls (calls.filter (·.concerns w))) := by
  induction calls using List.reverseRecOn with
  | nil => exact .refl true w s
  | append_singleton calls c ih =>
    have hearlier := ih h.of_append
    rw [List.filter_append, List.filter_singleton, afterCalls_snoc]
    cases hc : c.concerns w with
    | false =>
      rw [cond_false, List.append_nil]
      exact hearlier.step_left hc
    | true =>
      rw [cond_true, afterCalls_snoc]
      exact (hearlier.step_both hc fun _ hlook => h.profiles_eq hlook).1

end LooksInTime

/-! ## Windows do not notice each other -/

/-- What a run of calls comes to for the window `w`, its icons aside, depends on the calls that
concern it. -/
structure BareSeparated (s : Session) (w : WindowHandle) (calls : List Call) : Prop where
  answers_eq : s.answersAbout w calls = s.answers (calls.filter (·.concerns w))
  bare_eq : ((s.afterCalls calls).desktop.window? w).map Window.bare =
    ((s.afterCalls (calls.filter (·.concerns w))).desktop.window? w).map Window.bare
  /-- How calls for other windows are interleaved with them makes no difference. -/
  interleaving : ∀ others : List Call,
    others.filter (·.concerns w) = calls.filter (·.concerns w) →
      ((s.afterCalls others).desktop.window? w).map Window.bare =
        ((s.afterCalls calls).desktop.window? w).map Window.bare

/-- What a run of calls makes of the window `w`, its icons included, depends on the calls that
concern it. -/
structure Separated (s : Session) (w : WindowHandle) (calls : List Call) : Prop where
  window_eq : (s.afterCalls calls).desktop.window? w =
    (s.afterCalls (calls.filter (·.concerns w))).desktop.window? w
  interleaving : ∀ others : List Call,
    others.filter (·.concerns w) = calls.filter (·.concerns w) → s.LooksInTime w others →
      (s.afterCalls others).desktop.window? w = (s.afterCalls calls).desktop.window? w

/-- **Windows do not notice each other**, whatever adapters there are and however far each of them
has got with its icons.  In every run that is true of the answers about a window and of all that the
window has but its icons.  It is true of its icons in a run in which looks come in time. -/
theorem separated (s : Session) (w : WindowHandle) (calls : List Call) :
    s.BareSeparated w calls ∧ (s.LooksInTime w calls → s.Separated w calls) := by
  have hbare : ∀ calls : List Call, ((s.afterCalls calls).desktop.window? w).map Window.bare =
      ((s.afterCalls (calls.filter (·.concerns w))).desktop.window? w).map Window.bare :=
    fun calls => ((Alike.refl false w s).run calls).1.desktop.window
  have hwindow : ∀ calls : List Call, s.LooksInTime w calls →
      (s.afterCalls calls).desktop.window? w =
        (s.afterCalls (calls.filter (·.concerns w))).desktop.window? w := by
    intro calls hlooks
    have hseen := hlooks.alike.desktop.window
    have hall : (fun window : Window => window.seen true) = id := rfl
    rwa [hall, Option.map_id_apply, Option.map_id_apply] at hseen
  refine ⟨⟨?_, hbare calls, ?_⟩, fun hlooks => ⟨hwindow calls hlooks, ?_⟩⟩
  · exact ((Alike.refl false w s).run calls).2
  · intro others hsame
    rw [hbare others, hsame, ← hbare calls]
  · intro others hsame hothers
    rw [hwindow others hothers, hsame, ← hwindow calls hlooks]

/-- Two windows and a program with icons, and an adapter that loads them for the second window first.
The first window is prepared too, so its look comes in time: what it has in the end is what it has
without the second window, which is both icons. -/
theorem separated_inTime :
    let s : Session :=
      { program := .ok ⟨"launcher"⟩
        desktop := (((Desktop.empty.addWindow ⟨⟨0, 400⟩, ⟨0, 300⟩⟩ .overlapped).2.addWindow
          ⟨⟨50, 90⟩, ⟨60, 80⟩⟩ .overlapped).2).addIcons ⟨"launcher"⟩ ⟨2, .ofRaw 256 257⟩
        adapters := [.new .reporting .default] }
    let w : WindowHandle := ⟨0x10004⟩
    let calls : List Call := [⟨0, .prepare ⟨0x10008⟩⟩, ⟨0, .prepare w⟩, ⟨0, .plainApplyIcons w⟩,
      ⟨0, .resize ⟨0x10008⟩ 10 10⟩, ⟨0, .width w⟩]
    s.LooksInTime w calls ∧ s.Separated w calls ∧
      ((s.afterCalls calls).desktop.window? w).map (fun window => (window.bigIcon, window.smallIcon)) =
        some (IconHandle.ofRaw? 256, IconHandle.ofRaw? 257) := by
  intro s w calls
  have hlooks : s.LooksInTime w calls := by
    intro earlier look later d hcalls hlook _ _ _
    simp only [calls, List.cons_eq_append_iff, List.cons.injEq, List.nil_eq_append_iff, reduceCtorEq,
      and_false, exists_false, or_false] at hcalls
    -- only the third call is a look, and the second one is in time
    rcases hcalls with ⟨-, rfl, -⟩ | ⟨_, rfl, ⟨-, rfl, -⟩ | ⟨_, rfl, ⟨rfl, rfl, -⟩ | ⟨_, rfl,
      ⟨-, rfl, -⟩ | ⟨_, rfl, -, rfl, -⟩⟩⟩⟩
    · cases hlook
    · cases hlook
    · exact ⟨⟨0, .prepare w⟩, by simp, rfl, rfl, rfl⟩
    · cases hlook
    · cases hlook
  exact ⟨hlooks, (separated s w calls).2 hlooks, by decide⟩

/-- **A look that does not come in time shows what another window had loaded**: without the second
window, the first one would have no icons. -/
theorem not_separated_lookInside :
    let s : Session :=
      { program := .ok ⟨"launcher"⟩
        desktop := (((Desktop.empty.addWindow ⟨⟨0, 400⟩, ⟨0, 300⟩⟩ .overlapped).2.addWindow
          ⟨⟨50, 90⟩, ⟨60, 80⟩⟩ .overlapped).2).addIcons ⟨"launcher"⟩ ⟨2, .ofRaw 256 257⟩
        adapters := [.new .reporting .default] }
    let w : WindowHandle := ⟨0x10004⟩
    let calls : List Call := [⟨0, .prepare ⟨0x10008⟩⟩, ⟨0, .plainApplyIcons w⟩]
    (s.afterCalls calls).desktop.window? w ≠
      (s.afterCalls (calls.filter (·.concerns w))).desktop.window? w := by
  decide

end Session
end WindowDecor
