import WindowDecor.Proofs.Centering.Failure
import WindowDecor.Proofs.Session.Account
import WindowDecor.Proofs.Session.Separation
import WindowDecor.Proofs.Session.Styles

/-!
# A window is prepared in any order

Preparing a window is three things: giving it icons, fixing its frame and centering it.  None of
them looks at what another one changes, and no two of them change the same part of a window or add
to the same record.  So they may as well be asked for one by one, in any order.

* `PreparationPart` — the three, and `DesktopAction.part?` to tell their requests apart.
* `Desktop.perform_comm`, `Desktop.performAll_comm` — **requests of two parts may be exchanged**.
* `PreparationPart.SameReadings` — what a part looks at; `PreparationPart.sameReadings_perform` — a
  request of another part leaves that as it is.
* `Session.step_comm`, `Session.after_partSteps_perm` — so two parts may be asked for in either
  order, and any number of them in any order.
* `Session.sameReadings_prepare` — what preparing a window leaves of a part is what that part leaves
  alone.
* **`Session.prepares`** — what follows for `prepare` (`Session.Prepares`), with what becomes of the
  window (`Session.WindowPrepared`).
-/

namespace WindowDecor

/-! ## The parts -/

/-- What preparing a window is made of. -/
inductive PreparationPart where
  | icons
  | frame
  | place
  deriving DecidableEq

namespace PreparationPart

/-- The parts, in the order in which preparing goes through them. -/
def all : List PreparationPart := [.icons, .frame, .place]

/-- What is asked of an adapter to do one part. -/
def action (w : WindowHandle) : PreparationPart → DecoratorAction
  | .icons => .applyIcons w
  | .frame => .fixStyle w
  | .place => .center w

end PreparationPart

/-- The part that a request belongs to. -/
def DesktopAction.part? : DesktopAction → Option PreparationPart
  | .setIcon _ _ _ | .extractIcons _ => some .icons
  | .setStyle _ _ => some .frame
  | .move _ _ => some .place
  | _ => none

namespace Desktop

/-! ## Requests may be exchanged -/

/-- Changes of windows that may be exchanged for each window may be exchanged. -/
theorem changeWindow_comm (d : Desktop) (w v : WindowHandle) {f g : Window → Window}
    (hf : ∀ window, (f window).handle = window.handle)
    (hg : ∀ window, (g window).handle = window.handle)
    (hcomm : ∀ window, g (f window) = f (g window)) :
    (d.changeWindow w f).changeWindow v g = (d.changeWindow v g).changeWindow w f := by
  simp only [changeWindow, List.map_map]
  congr 1
  refine List.map_congr_left fun window _ => ?_
  simp only [Function.comp]
  by_cases hw : window.handle = w <;> by_cases hv : window.handle = v
  · rw [if_pos hw, if_pos hv, if_pos ((hf window).trans hv), if_pos ((hg window).trans hw), hcomm]
  · rw [if_pos hw, if_neg hv, if_neg fun h => hv ((hf window).symm.trans h), if_pos hw]
  · rw [if_neg hw, if_pos hv, if_neg fun h => hw ((hg window).symm.trans h)]
  · rw [if_neg hw, if_neg hv, if_neg hw]

variable (d : Desktop) (w v : WindowHandle)

/-- Styles and icons may be written in either order. -/
theorem setStyle_setIcon (slot : IconClass) (icon : IconHandle) (style : WindowStyle) :
    (d.setIcon w slot icon).setStyle v style = (d.setStyle v style).setIcon w slot icon := by
  have hwindows := d.changeWindow_comm w v (f := (·.setIcon icon slot)) (g := (·.setStyle style))
    (fun window => window.handle_setIcon icon slot) (fun _ => rfl) fun _ => by cases slot <;> rfl
  let given : IconAssignment := ⟨w, slot, icon⟩
  exact congrArg (fun d' : Desktop => { d' with assignments := d.assignments ++ [given] }) hwindows

theorem move_setIcon (slot : IconClass) (icon : IconHandle) (origin : Point) :
    (d.setIcon w slot icon).move v origin = (d.move v origin).setIcon w slot icon := by
  have hwindows := d.changeWindow_comm w v (f := (·.setIcon icon slot)) (g := (·.moveTo origin))
    (fun window => window.handle_setIcon icon slot) (fun _ => rfl) fun _ => by cases slot <;> rfl
  let given : IconAssignment := ⟨w, slot, icon⟩
  exact congrArg (fun d' : Desktop => { d' with assignments := d.assignments ++ [given] }) hwindows

theorem move_setStyle (style : WindowStyle) (origin : Point) :
    (d.setStyle w style).move v origin = (d.move v origin).setStyle w style :=
  d.changeWindow_comm w v (fun _ => rfl) (fun _ => rfl) fun _ => rfl

/-- **Requests of different parts may be exchanged.** -/
theorem perform_comm {r r' : DesktopAction} {p p' : PreparationPart} (hr : r.part? = some p)
    (hr' : r'.part? = some p') (hne : p ≠ p') :
    ((d.perform r).1.perform r').1 = ((d.perform r').1.perform r).1 := by
  cases r with
  | setIcon w slot icon =>
    cases r' with
    | setStyle v style => exact d.setStyle_setIcon w v slot icon style
    | move v origin => exact d.move_setIcon w v slot icon origin
    | setIcon v slot' icon' => exact absurd (Option.some.inj (hr.symm.trans hr')) hne
    | extractIcons path => rfl
    | _ => cases hr'
  | setStyle w style =>
    cases r' with
    | setIcon v slot icon => exact (d.setStyle_setIcon v w slot icon style).symm
    | move v origin => exact d.move_setStyle w v style origin
    | setStyle v style' => exact absurd (Option.some.inj (hr.symm.trans hr')) hne
    | extractIcons path => rfl
    | _ => cases hr'
  | move w origin =>
    cases r' with
    | setIcon v slot icon => exact (d.move_setIcon v w slot icon origin).symm
    | setStyle v style => exact (d.move_setStyle v w style origin).symm
    | move v origin' => exact absurd (Option.some.inj (hr.symm.trans hr')) hne
    | extractIcons path => rfl
    | _ => cases hr'
  | extractIcons path =>
    cases r' with
    | extractIcons path' => exact absurd (Option.some.inj (hr.symm.trans hr')) hne
    | _ => rfl
  | _ => cases hr

section

variable {requests requests' : List DesktopAction} {p p' : PreparationPart}

/-- A request may be put behind a list of requests of another part. -/
theorem perform_performAll {r : DesktopAction} (hr : r.part? = some p) (hne : p ≠ p')
    (hrequests : ∀ r' ∈ requests, r'.part? = some p') (d : Desktop) :
    (d.perform r).1.performAll requests = ((d.performAll requests).perform r).1 := by
  induction requests generalizing d with
  | nil => rfl
  | cons r' rest ih =>
    have hfirst := d.perform_comm hr (hrequests r' List.mem_cons_self) hne
    rw [performAll_cons, performAll_cons, hfirst]
    exact ih (fun r' h => hrequests r' (List.mem_cons_of_mem _ h)) _

theorem performAll_comm (hrequests : ∀ r ∈ requests, r.part? = some p)
    (hrequests' : ∀ r' ∈ requests', r'.part? = some p') (hne : p ≠ p') (d : Desktop) :
    (d.performAll requests).performAll requests' =
      (d.performAll requests').performAll requests := by
  induction requests generalizing d with
  | nil => rfl
  | cons r rest ih =>
    have hfirst := perform_performAll (hrequests r List.mem_cons_self) hne hrequests' d
    rw [performAll_cons, performAll_cons, ← hfirst]
    exact ih (fun r h => hrequests r (List.mem_cons_of_mem _ h)) _

end

end Desktop

/-! ## What a part looks at -/

namespace PreparationPart

variable {p : PreparationPart} {w : WindowHandle} {d d' : Desktop}

/-- Two desktops on which a part finds the same. -/
def SameReadings (w : WindowHandle) (d d' : Desktop) : PreparationPart → Prop
  | .icons => d.resources = d'.resources
  | .frame => d.style w = d'.style w
  | .place => d.monitors = d'.monitors ∧ d.place? w = d'.place? w

theorem SameReadings.refl (w : WindowHandle) (d : Desktop) (p : PreparationPart) :
    p.SameReadings w d d := by
  cases p with
  | place => exact ⟨rfl, rfl⟩
  | _ => rfl

theorem SameReadings.trans {d'' : Desktop} (h : p.SameReadings w d d')
    (h' : p.SameReadings w d' d'') : p.SameReadings w d d'' := by
  cases p with
  | icons => exact Eq.trans h h'
  | frame => exact Eq.trans h h'
  | place => exact ⟨h.1.trans h'.1, h.2.trans h'.2⟩

/-- A change that keeps styles keeps what is read of them. -/
theorem style_changeWindow (d : Desktop) (v w : WindowHandle) {change : Window → Window}
    (hhandle : ∀ window, (change window).handle = window.handle)
    (hstyle : ∀ window, (change window).style = window.style) :
    (d.changeWindow v change).style w = d.style w :=
  congrArg (fun style : Option WindowStyle => style.getD .none)
    (d.view_changeWindow Window.style v w hhandle fun window _ => hstyle window)

/-- **A part does not look at what another one changes.** -/
theorem sameReadings_perform {r : DesktopAction} {q : PreparationPart} (hr : r.part? = some q)
    (hne : q ≠ p) (w : WindowHandle) (d : Desktop) : p.SameReadings w (d.perform r).1 d := by
  cases p with
  | icons => cases r <;> first | rfl | cases hr
  | frame =>
    cases r with
    | setIcon v slot icon =>
      exact style_changeWindow d v w (fun window => window.handle_setIcon icon slot)
        fun window => window.style_setIcon icon slot
    | move v origin => exact style_changeWindow d v w (fun _ => rfl) fun _ => rfl
    | setStyle v style => exact absurd (Option.some.inj hr).symm hne
    | extractIcons path => rfl
    | _ => cases hr
  | place =>
    cases r with
    | setIcon v slot icon =>
      exact ⟨rfl, d.view_setIcon Window.place v w fun window => window.place_setIcon icon slot⟩
    | setStyle v style =>
      exact ⟨rfl, d.view_changeWindow Window.place v w (fun _ => rfl) fun _ _ => rfl⟩
    | move v origin => exact absurd (Option.some.inj hr).symm hne
    | extractIcons path => exact ⟨rfl, rfl⟩
    | _ => cases hr

theorem sameReadings_performAll {requests : List DesktopAction} {q : PreparationPart}
    (hrequests : ∀ r ∈ requests, r.part? = some q) (hne : q ≠ p) (w : WindowHandle) (d : Desktop) :
    p.SameReadings w (d.performAll requests) d := by
  refine Desktop.performAll_induction (motive := fun d' => p.SameReadings w d' d) (.refl w d p) ?_
  intro r hr d' h
  exact (sameReadings_perform (hrequests r hr) hne w d').trans h

end PreparationPart

/-! ## What an adapter does for a part -/

namespace Adapter

variable (a : Adapter) (program : ProgramFile) {p : PreparationPart} {w : WindowHandle}
  {desktop desktop' : Desktop}

/-- What an adapter asks for a part belongs to the part. -/
theorem part?_of_mem_requests {r : DesktopAction}
    (hr : r ∈ a.requests program desktop (p.action w)) : r.part? = some p := by
  obtain ⟨kind, d⟩ := a
  cases p with
  | icons =>
    cases kind with
    | plain =>
      obtain ⟨assignment, -, rfl⟩ := List.mem_map.mp hr
      rfl
    | reporting =>
      rcases d.ownIconRequests_cases program desktop w hr with ⟨slot, icon, rfl⟩ | ⟨path, rfl⟩
      · rfl
      · rfl
  | frame =>
    obtain rfl := List.mem_singleton.mp hr
    rfl
  | place =>
    obtain ⟨origin, rfl⟩ := Desktop.eq_move_of_mem_centerRequests hr
    rfl

/-- **What an adapter does for a part depends on what it finds for it.** -/
theorem action_congr (h : p.SameReadings w desktop desktop') :
    a.requests program desktop (p.action w) = a.requests program desktop' (p.action w) ∧
      a.next program desktop (p.action w) = a.next program desktop' (p.action w) ∧
      a.answer program desktop (p.action w) = a.answer program desktop' (p.action w) ∧
      a.events program desktop (p.action w) = a.events program desktop' (p.action w) := by
  obtain ⟨kind, d⟩ := a
  cases p with
  | icons =>
    replace h : desktop.resources = desktop'.resources := h
    cases kind with
    | plain => exact ⟨rfl, rfl, rfl, rfl⟩
    | reporting =>
      have hready := d.ready_congr program h
      refine ⟨?_, congrArg (Adapter.mk .reporting) hready, rfl, ?_⟩
      · show d.ownIconRequests program desktop w = d.ownIconRequests program desktop' w
        rw [Decorator.ownIconRequests, hready, Decorator.ownIconRequests]
      · show d.ownIconEvents program desktop = d.ownIconEvents program desktop'
        simp only [Decorator.ownIconEvents, Decorator.loadEvents, Desktop.iconsAt, h]
  | frame =>
    replace h : desktop.style w = desktop'.style w := h
    refine ⟨?_, rfl, rfl, rfl⟩
    show desktop.fixStyleRequests w = desktop'.fixStyleRequests w
    rw [Desktop.fixStyleRequests, h, Desktop.fixStyleRequests]
  | place =>
    obtain ⟨hsame, hrequests⟩ := Desktop.center_congr h.1 h.2
    cases kind with
    | plain => exact ⟨hrequests, rfl, congrArg ActionResult.centering hsame, rfl⟩
    | reporting =>
      refine ⟨hrequests, rfl, rfl, ?_⟩
      show desktop.centerEvents w = desktop'.centerEvents w
      rw [Desktop.centerEvents, hsame, Desktop.centerEvents]

/-- Only icons are kept, and only for icons does it matter what is kept. -/
theorem action_next {q : PreparationPart} (hne : p ≠ q) (w : WindowHandle)
    (desktop desktop' : Desktop) :
    (a.next program desktop (p.action w)).requests program desktop' (q.action w) =
        a.requests program desktop' (q.action w) ∧
      (a.next program desktop (p.action w)).answer program desktop' (q.action w) =
        a.answer program desktop' (q.action w) ∧
      (a.next program desktop (p.action w)).events program desktop' (q.action w) =
        a.events program desktop' (q.action w) := by
  obtain ⟨kind, d⟩ := a
  cases p with
  | icons =>
    cases q with
    | icons => exact absurd rfl hne
    | _ => cases kind <;> exact ⟨rfl, rfl, rfl⟩
  | _ => exact ⟨rfl, rfl, rfl⟩

/-- The adapter ends up the same, whichever of two parts came first. -/
theorem next_comm {q : PreparationPart} (hne : p ≠ q) {d d' : Desktop}
    (hp : p.SameReadings w d' desktop) (hq : q.SameReadings w d desktop) :
    (a.next program desktop (p.action w)).next program d (q.action w) =
      (a.next program desktop (q.action w)).next program d' (p.action w) := by
  cases p with
  | icons =>
    have hsame := (a.action_congr program hp).2.1
    cases q with
    | icons => exact absurd rfl hne
    | _ => exact hsame.symm
  | _ =>
    have hsame := (a.action_congr program hq).2.1
    cases q with
    | icons => exact hsame
    | _ => rfl

end Adapter

/-! ## The parts of a session -/

namespace Session

variable {s : Session} {index : Nat}

/-- The step that asks an adapter for one part. -/
def partStep (index : Nat) (w : WindowHandle) (p : PreparationPart) : Step :=
  .adapter index (p.action w)

/-- The steps that ask for several, one after the other. -/
def partSteps (index : Nat) (w : WindowHandle) (parts : List PreparationPart) : List Step :=
  parts.map (partStep index w)

section

variable {a : Adapter} {p q : PreparationPart} {w : WindowHandle}

/-- The step of a part leaves what another part looks at. -/
theorem sameReadings_step (ha : s.adapters[index]? = some a) (hne : p ≠ q) :
    q.SameReadings w (s.step (partStep index w p)).1.desktop s.desktop := by
  rw [partStep, step_adapter ha]
  exact PreparationPart.sameReadings_performAll (fun r => a.part?_of_mem_requests s.program) hne w _

/-- **What two parts come to**, in terms of what is found before the first: the second has the
answer and the events that it has alone. -/
theorem step_step (ha : s.adapters[index]? = some a) (hne : p ≠ q) :
    (s.step (partStep index w p)).1.step (partStep index w q) =
      ({ s with
          desktop := (s.desktop.performAll (a.requests s.program s.desktop (p.action w))).performAll
            (a.requests s.program s.desktop (q.action w))
          adapters := s.adapters.set index ((a.next s.program s.desktop (p.action w)).next s.program
            (s.step (partStep index w p)).1.desktop (q.action w)) },
        (s.step (partStep index w q)).2) := by
  let first : Session := { s with
    desktop := s.desktop.performAll (a.requests s.program s.desktop (p.action w))
    adapters := s.adapters.set index (a.next s.program s.desktop (p.action w)) }
  have hfirst : (s.step (partStep index w p)).1 = first := step_adapter ha (p.action w)
  have hread := sameReadings_step (w := w) ha hne
  have hadapter := adapter_step ha (p.action w)
  rw [← partStep] at hadapter
  rw [hfirst] at hread hadapter ⊢
  obtain ⟨hrequests, -, hanswer, hevents⟩ := a.action_congr s.program hread
  obtain ⟨hrequests', hanswer', hevents'⟩ :=
    a.action_next s.program hne w s.desktop first.desktop
  have hq : s.step (partStep index w q) = _ := step_adapter_eq ha (q.action w)
  have hsecond : first.step (partStep index w q) = _ := step_adapter_eq hadapter (q.action w)
  have hprogram : first.program = s.program := rfl
  rw [hsecond, hq, hprogram, hrequests', hrequests, hanswer', hanswer, hevents', hevents]
  simp only [first, List.set_set]

/-- **Two parts may be asked for in either order.** -/
theorem step_comm (ha : s.adapters[index]? = some a) (hne : p ≠ q) :
    ((s.step (partStep index w p)).1.step (partStep index w q)).1 =
      ((s.step (partStep index w q)).1.step (partStep index w p)).1 := by
  have hp := sameReadings_step (w := w) ha hne.symm
  have hq := sameReadings_step (w := w) ha hne
  rw [step_step ha hne, step_step ha hne.symm, a.next_comm s.program hne hp hq,
    Desktop.performAll_comm (fun _ => a.part?_of_mem_requests s.program)
      (fun _ => a.part?_of_mem_requests s.program) hne]

/-- What a part looks at is the same after any number of others. -/
theorem sameReadings_after (ha : s.adapters[index]? = some a) {parts : List PreparationPart}
    (hparts : p ∉ parts) :
    p.SameReadings w (s.after (partSteps index w parts)).desktop s.desktop := by
  induction parts generalizing s a with
  | nil => exact .refl w _ p
  | cons q rest ih =>
    rw [List.mem_cons, not_or] at hparts
    exact (ih (adapter_step ha _) hparts.2).trans (sameReadings_step ha (Ne.symm hparts.1))

/-- **Any order of parts leads to the same session.** -/
theorem after_partSteps_perm (ha : s.adapters[index]? = some a)
    {parts parts' : List PreparationPart} (hperm : parts.Perm parts') (hnodup : parts.Nodup) :
    s.after (partSteps index w parts) = s.after (partSteps index w parts') := by
  induction hperm generalizing s a with
  | nil => rfl
  | cons p _ ih => exact ih (adapter_step ha _) hnodup.of_cons
  | swap p q rest =>
    have hne : q ≠ p := fun h => (List.nodup_cons.mp hnodup).1 (h ▸ List.mem_cons_self)
    exact congrArg (fun s' : Session => s'.after (partSteps index w rest)) (step_comm ha hne)
  | trans hfirst _ ih ih' =>
    exact (ih ha hnodup).trans (ih' ha (hfirst.nodup_iff.mp hnodup))

/-- Each part logs what it would log if it were the first. -/
theorem log_partSteps (ha : s.adapters[index]? = some a) {parts : List PreparationPart}
    (hnodup : parts.Nodup) : s.log (partSteps index w parts) =
      parts.flatMap fun p => (s.step (partStep index w p)).2.events := by
  induction parts generalizing s a with
  | nil => rfl
  | cons p rest ih =>
    obtain ⟨hnew, hrest⟩ := List.nodup_cons.mp hnodup
    have hlog : s.log (partSteps index w (p :: rest)) =
        (s.step (partStep index w p)).2.events ++
          (s.step (partStep index w p)).1.log (partSteps index w rest) := log_cons s _ _
    rw [hlog, ih (s := (s.step (partStep index w p)).1) (adapter_step ha _) hrest,
      List.flatMap_cons]
    congr 1
    refine List.flatMap_congr fun q hq => ?_
    have hne : p ≠ q := fun h => hnew (h ▸ hq)
    rw [step_step ha hne]

end

/-! ## Preparing a window -/

variable {d : Decorator}

/-- A part that is not about icons leaves the adapter as it is. -/
theorem step_of_ne_icons {a : Adapter} {p : PreparationPart} (ha : s.adapters[index]? = some a)
    (hp : p ≠ .icons) (w : WindowHandle) : (s.step (partStep index w p)).1 =
      { s with desktop := s.desktop.performAll (a.requests s.program s.desktop (p.action w)) } := by
  obtain ⟨hindex, hentry⟩ := List.getElem?_eq_some_iff.mp ha
  have hkept : a.next s.program s.desktop (p.action w) = s.adapters[index] := by
    rw [hentry]
    cases p with
    | icons => exact absurd rfl hp
    | _ => rfl
  rw [partStep, step_adapter ha, hkept, List.set_getElem_self]

/-- **The three parts, one after the other, are what preparing a window is.** -/
theorem step_prepare (ha : s.adapters[index]? = some ⟨.reporting, d⟩) (w : WindowHandle) :
    (s.step (.adapter index (.prepare w))).1 = s.after (partSteps index w PreparationPart.all) ∧
      (s.step (.adapter index (.prepare w))).2.events =
        s.log (partSteps index w PreparationPart.all) := by
  constructor
  · let ready : Adapter := ⟨.reporting, d.ready s.program s.desktop⟩
    let dressed : Session := { s with
      desktop := s.desktop.performAll (d.ownIconRequests s.program s.desktop w)
      adapters := s.adapters.set index ready }
    let framed : Session := { dressed with
      desktop := dressed.desktop.performAll (dressed.desktop.fixStyleRequests w) }
    have hready : dressed.adapters[index]? = some ready := by
      rw [List.getElem?_set_self', ha]
      rfl
    have hicons : (s.step (partStep index w .icons)).1 = dressed := step_adapter ha _
    have hframe : (dressed.step (partStep index w .frame)).1 = framed :=
      step_of_ne_icons hready (by decide) w
    have hplace := step_of_ne_icons (s := framed) hready (p := .place) (by decide) w
    show _ = (((s.step (partStep index w .icons)).1.step (partStep index w .frame)).1.step
      (partStep index w .place)).1
    rw [hicons, hframe, hplace, step_adapter ha]
    simp only [Adapter.requests, Decorator.prepareRequests, Desktop.performAll_append]
    rfl
  · have hevents : ∀ p, (s.step (partStep index w p)).2.events = _ :=
      fun p => congrArg (·.2.events) (step_adapter_eq ha (p.action w))
    rw [log_partSteps ha (by decide), step_adapter_eq ha]
    simp only [hevents, PreparationPart.all, List.flatMap_cons, List.flatMap_nil, List.append_nil]
    rfl

/-- **What preparing a window leaves of each part is what that part leaves alone.** -/
theorem sameReadings_prepare (ha : s.adapters[index]? = some ⟨.reporting, d⟩) (w : WindowHandle)
    (p : PreparationPart) : p.SameReadings w (s.step (.adapter index (.prepare w))).1.desktop
      (s.step (partStep index w p)).1.desktop := by
  have hnodup : PreparationPart.all.Nodup := by decide
  have hmem : p ∈ PreparationPart.all := by cases p <;> decide
  -- it may as well come first
  have hfirst := after_partSteps_perm (w := w) ha (List.perm_cons_erase hmem) hnodup
  rw [(step_prepare ha w).1, hfirst]
  exact sameReadings_after (adapter_step ha _) hnodup.not_mem_erase

/-- What preparing makes of a window `old`, with the icons that are at hand. -/
structure WindowPrepared (s : Session) (icons : IconCache) (w : WindowHandle) (old new : Window) :
    Prop where
  style_eq : new.style = old.style.withoutResizeAffordances
  /-- The maximize button and the sizing border are gone, and nothing else is. -/
  bit_eq : ∀ i, new.style.bit i = (old.style.bit i && decide (i ≠ 16 ∧ i ≠ 18))
  icon?_eq : ∀ slot, new.icon? slot = (icons.icon? slot).or (old.icon? slot)
  /-- Centering says where the window goes, if it says anything. -/
  bounds_of_ok : (center w s.desktop).1 = .ok () → ∃ m area, s.desktop.monitorOf? w = some m ∧
    s.desktop.workArea m = .ok area ∧
      new.bounds = old.bounds.moveTo (area.centeredOrigin old.bounds.width old.bounds.height)
  bounds_of_error : ∀ e, (center w s.desktop).1 = .error e → new.bounds = old.bounds

/-- What can be relied on when a window is prepared. -/
structure Prepares (s : Session) (index : Nat) (d : Decorator) (w : WindowHandle) : Prop where
  /-- Its parts may be asked for one by one, in any order. -/
  session_eq : ∀ parts : List PreparationPart, parts.Perm PreparationPart.all →
    s.after (partSteps index w parts) = (s.step (.adapter index (.prepare w))).1
  log_perm : ∀ parts : List PreparationPart, parts.Perm PreparationPart.all →
    (s.log (partSteps index w parts)).Perm (s.step (.adapter index (.prepare w))).2.events
  /-- The icons at hand afterwards are those that were before, or those of a load. -/
  cache : (s.step (.adapter index (.prepare w))).1.adapters[index]? =
    some ⟨.reporting, d.ready s.program s.desktop⟩
  window : ∀ {old}, s.desktop.window? w = some old →
    ∃ new, (s.step (.adapter index (.prepare w))).1.desktop.window? w = some new ∧
      s.WindowPrepared (d.ready s.program s.desktop).icons w old new
  /-- No other window changes, and none comes into being. -/
  others : ∀ v, v ≠ w ∨ s.desktop.window? w = none →
    (s.step (.adapter index (.prepare w))).1.desktop.window? v = s.desktop.window? v

/-- After preparing, a window is where centering alone would have put it. -/
theorem place?_prepare (ha : s.adapters[index]? = some ⟨.reporting, d⟩) (w : WindowHandle) :
    (s.step (.adapter index (.prepare w))).1.desktop.place? w =
      (center w s.desktop).2.place? w := by
  have hread := (sameReadings_prepare ha w .place).2
  have hplace : (s.step (partStep index w .place)).1 = _ := step_adapter ha _
  rw [hplace] at hread
  exact hread.trans (congrArg (·.place? w) (s.desktop.center_requests w).symm)

/-- **A window that is there is prepared**: icons, frame and place. -/
theorem windowPrepared (ha : s.adapters[index]? = some ⟨.reporting, d⟩) {w : WindowHandle}
    {old : Window} (hold : s.desktop.window? w = some old) :
    ∃ new, (s.step (.adapter index (.prepare w))).1.desktop.window? w = some new ∧
      s.WindowPrepared (d.ready s.program s.desktop).icons w old new := by
  have hdresses : (Adapter.mk .reporting d).dresses? (.prepare w) = some w := rfl
  obtain ⟨new, hnew, hslots⟩ := icon?_step_of_dresses ha hdresses hold
  have hfixes : (Adapter.mk .reporting d).fixes? (.prepare w) = some w := rfl
  have hstyling := (Adapter.mk .reporting d).styling?_requests s.program (.prepare w)
    (Desktop.styling?_of_window? hold)
  have hstyle : new.style = old.style.withoutResizeAffordances := by
    rw [step_adapter ha] at hnew
    rw [if_pos hfixes] at hstyling
    obtain ⟨new', hnew', hstyle, -⟩ := Desktop.exists_window_of_styling? hstyling
    obtain rfl := Option.some.inj (hnew.symm.trans hnew')
    exact hstyle
  have hplace := place?_prepare ha w
  rw [Desktop.place?, hnew, Option.map_some] at hplace
  refine ⟨new, hnew, hstyle, ?_, hslots, ?_, ?_⟩
  · rw [hstyle]
    exact old.style.bit_withoutResizeAffordances
  · intro hok
    obtain ⟨m, area, bounds, hm, harea, hbounds, hcenter⟩ := Desktop.center_of_ok hok
    refine ⟨m, area, hm, harea, ?_⟩
    obtain ⟨old', hold', -, rfl⟩ := Desktop.bounds_eq_ok_iff.mp hbounds
    obtain rfl := Option.some.inj (hold.symm.trans hold')
    rw [hcenter, Desktop.place?, Desktop.window?_move, if_pos rfl, hold] at hplace
    exact (Prod.mk.inj (Option.some.inj hplace)).1
  · intro e hfails
    have hstays : (center w s.desktop).2 = s.desktop := by
      rw [s.desktop.center_requests, Desktop.centerRequests_of_fails hfails]
      rfl
    rw [hstays, Desktop.place?, hold] at hplace
    exact (Prod.mk.inj (Option.some.inj hplace)).1

/-- **Preparing a window is three independent things**, on every desktop and whatever fails. -/
theorem prepares (s : Session) (index : Nat) (d : Decorator)
    (ha : s.adapters[index]? = some ⟨.reporting, d⟩) (w : WindowHandle) :
    s.Prepares index d w := by
  have hnodup : PreparationPart.all.Nodup := by decide
  obtain ⟨hsession, hlog⟩ := step_prepare ha w
  constructor
  case session_eq =>
    intro parts hperm
    rw [hsession]
    exact after_partSteps_perm ha hperm (hperm.nodup_iff.mpr hnodup)
  case log_perm =>
    intro parts hperm
    rw [hlog, log_partSteps ha (hperm.nodup_iff.mpr hnodup), log_partSteps ha hnodup]
    exact hperm.flatMap_right _
  case cache => exact adapter_step ha _
  case window => exact windowPrepared ha
  case others =>
    intro v hv
    rw [step_adapter ha, Desktop.window?_performAll fun r => Adapter.isRequestFor_of_mem_requests]
    split
    · next htarget =>
      obtain rfl : w = v := Option.some.inj htarget
      rcases hv with hne | hnone
      · exact absurd rfl hne
      · rw [hnone]
        rfl
    · rfl

/-- A window that reaches across two screens, and a program with a small icon only.  The window gets
the icon and a fixed frame also if the work area cannot be read, but then it stays where it is. -/
theorem prepares_sideBySide :
    let program : FilePath := ⟨"launcher"⟩
    let desktop := (Desktop.sideBySide.addIcons program ⟨1, .ofRaw 0 7⟩).setStyle ⟨12⟩ .overlapped
    let s : Session := ⟨.ok program, desktop, [.new .reporting .default]⟩
    let lost : Session := { s with desktop := desktop.failMonitorInfo ⟨8⟩ }
    let summary (s : Session) := (((s.step (.adapter 0 (.prepare ⟨12⟩))).1.desktop.window? ⟨12⟩).map
      fun window => (window.bounds, window.style, window.bigIcon, window.smallIcon.map (·.raw)))
    (s.adapters[0]? = some ⟨.reporting, .new .default⟩ ∧ s.Prepares 0 (.new .default) ⟨12⟩ ∧
        summary s = some (⟨⟨1581, 4181⟩, ⟨591, 562⟩⟩, ⟨0x00CA0000⟩, none, some 7)) ∧
      lost.adapters[0]? = some ⟨.reporting, .new .default⟩ ∧ lost.Prepares 0 (.new .default) ⟨12⟩ ∧
        summary lost = some (⟨⟨900, 3500⟩, ⟨31, 2⟩⟩, ⟨0x00CA0000⟩, none, some 7) := by
  intro program desktop s lost summary
  have hadapter : s.adapters[0]? = some ⟨.reporting, .new .default⟩ := rfl
  refine ⟨⟨hadapter, prepares s 0 _ hadapter ⟨12⟩, by decide⟩, hadapter, ?_, by decide⟩
  exact prepares lost 0 _ hadapter ⟨12⟩

end Session

end WindowDecor
