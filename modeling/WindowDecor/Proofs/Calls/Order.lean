import WindowDecor.Decorator.Reporting
import WindowDecor.Desktop.Manager
import WindowDecor.Proofs.Calls.Traced

/-!
# The order of calls

Centering and preparing a window are known by the calls that they make, in which order and with what,
for every window manager and whatever it answers.  A window manager may change with every call, and
may give the same question two answers.

* `CenteringTrace` — three readings, each only after the one before succeeded, and then one move to
  the origin that is computed from what was read.
* `LoadTrace`, `PreparingTrace` — a load, if there was none before; the icons; the frame; and
  centering, whatever became of the load.
* `center_traces`, `Decorator.prepare_traces` — **these are the calls that are made.**
* **`calledInOrder`** — and so, what kinds of call there are and what order they come in
  (`CalledInOrder`).
-/

namespace WindowDecor

/-! ## Centering -/

/-- The calls of an attempt to center a window, and what comes of it.  A failure is the very failure
of the call that ends the attempt. -/
inductive CenteringTrace (w : WindowHandle) :
    List ManagerCall → Except CenteringError Unit → Prop
  | noMonitor : CenteringTrace w [.monitorOf w none] (.error .monitorLookup)
  | noWorkArea {m : MonitorHandle} {cause : CallFailure} :
      CenteringTrace w [.monitorOf w (some m), .workArea m (.error cause)]
        (.error (.monitorInfo cause))
  | noBounds {m : MonitorHandle} {area : Rect} {cause : CallFailure} :
      CenteringTrace w [.monitorOf w (some m), .workArea m (.ok area), .bounds w (.error cause)]
        (.error (.windowBounds cause))
  | moved {m : MonitorHandle} {area bounds : Rect} :
      CenteringTrace w
        [.monitorOf w (some m), .workArea m (.ok area), .bounds w (.ok bounds),
          .move w (area.centeredOrigin bounds.width bounds.height)]
        (.ok ())

section

variable {σ : Type} [WindowManager σ] (w : WindowHandle)

/-- **Centering makes these calls.** -/
theorem center_traces :
    Traces (CenteringTrace w) (center w : StateM (Traced σ) _) (center w) := by
  refine .ask_bind (fun _ => rfl) fun m? => ?_
  cases m? with
  | none => exact .pure .noMonitor
  | some m =>
    refine .ask_bind (fun _ => rfl) fun area? => ?_
    cases area? with
    | error cause => exact .pure .noWorkArea
    | ok area =>
      refine .ask_bind (fun _ => rfl) fun bounds? => ?_
      cases bounds? with
      | error cause => exact .pure .noBounds
      | ok bounds => exact .ask_bind (fun _ => rfl) fun _ => .pure .moved

/-- What is logged of an outcome. -/
def eventsOf (w : WindowHandle) : Except CenteringError Unit → List LogEvent
  | .ok () => []
  | .error e => [.notCentered w e]

/-- Centering with a log makes the same calls. -/
theorem centerReporting_traces :
    Traces (fun calls events => ∃ outcome, CenteringTrace w calls outcome ∧ events = eventsOf w outcome)
      (centerReporting w : StateM (Traced σ) _) (centerReporting w) := by
  refine .bind (center_traces w) fun outcome calls hcalls => ?_
  have hevents : calls ++ [] = calls := List.append_nil calls
  cases outcome with
  | ok => exact .pure ⟨_, hevents.symm ▸ hcalls, rfl⟩
  | error e => exact .pure ⟨_, hevents.symm ▸ hcalls, rfl⟩

/-! ## Icons and the frame -/

/-- An icon for each slot, as far as there is one, and the big one first. -/
def iconCalls (w : WindowHandle) (icons : IconPair) : List ManagerCall :=
  (icons.large.map (.setIcon w .big)).toList ++ (icons.small.map (.setIcon w .small)).toList

/-- A list of icons is one call for each, in order. -/
theorem setIcons_traces (icons : List (IconClass × IconHandle)) :
    Traces (fun calls _ => calls = icons.map fun a => .setIcon w a.1 a.2)
      (setIcons w icons : StateM (Traced σ) Unit) (setIcons w icons) := by
  induction icons with
  | nil => exact .pure rfl
  | cons assignment rest ih =>
    refine .ask_bind (fun _ => rfl) fun _ => ih.mono fun calls _ hcalls => ?_
    rw [hcalls]
    rfl

/-- The frame is fixed by reading the style and writing it back without two of its bits. -/
theorem removeResizeAffordances_traces :
    Traces (fun calls _ => ∃ style : WindowStyle,
        calls = [.style w style, .setStyle w style.withoutResizeAffordances])
      (removeResizeAffordances w : StateM (Traced σ) Unit) (removeResizeAffordances w) := by
  refine .ask_bind (fun _ => rfl) fun style => ?_
  let fixed := style.withoutResizeAffordances
  have hwrite : Traces (fun calls _ => calls = [.setStyle w fixed])
      (WindowManager.setStyle w fixed : StateM (Traced σ) Unit) (WindowManager.setStyle w fixed) :=
    .ask fun _ => rfl
  exact hwrite.mono fun calls _ hcalls => ⟨style, congrArg (List.cons _) hcalls⟩

end

namespace Decorator

/-- The calls by which a decorator comes to the icons that it puts on a window, and what it is and
has logged then. -/
inductive LoadTrace (d : Decorator) (program : ProgramFile) :
    List ManagerCall → Decorator × List LogEvent → Prop
  | loadedBefore (h : d.icons.isLoaded) : LoadTrace d program [] (d, [])
  | unknown {reason : String} (h : d.icons.isLoaded = false)
      (hsource : d.iconSource program = .error reason) :
      LoadTrace d program [] (d.giveUpIcons, [.programUnknown reason])
  | asked {source : FilePath} {extracted : ExtractedIcons} (h : d.icons.isLoaded = false)
      (hsource : d.iconSource program = .ok source) :
      LoadTrace d program [.extractIcons source extracted]
        ({ d with icons := .loaded extracted.icons }, [.iconsLoaded source extracted.count])

/-- The calls by which a window is prepared, and what the decorator is and has logged then.  None of
the parts depends on what became of the others, but for the icons that are put on the window. -/
inductive PreparingTrace (d : Decorator) (program : ProgramFile) (w : WindowHandle) :
    List ManagerCall → Decorator × List LogEvent → Prop
  | intro {loading centering : List ManagerCall} {ready : Decorator} {icons : IconPair}
      {style : WindowStyle} {outcome : Except CenteringError Unit} {events : List LogEvent}
      (hload : d.LoadTrace program loading (ready, events)) (hicons : ready.icons = .loaded icons)
      (hcenter : CenteringTrace w centering outcome) :
      PreparingTrace d program w
        (loading ++ iconCalls w icons ++ [.style w style, .setStyle w style.withoutResizeAffordances]
          ++ centering)
        (ready, events ++ eventsOf w outcome)

variable {σ : Type} [WindowManager σ] (d : Decorator) (program : ProgramFile) (w : WindowHandle)

/-- However the load went, there is a pair at hand afterwards. -/
theorem exists_icons_of_loadTrace {calls : List ManagerCall} {ready : Decorator}
    {events : List LogEvent} (h : d.LoadTrace program calls (ready, events)) :
    ∃ icons, ready.icons = .loaded icons := by
  cases h with
  | loadedBefore h =>
    cases hicons : d.icons with
    | notLoaded => simp [hicons] at h
    | loaded icons => exact ⟨icons, rfl⟩
  | unknown => exact ⟨_, rfl⟩
  | asked => exact ⟨_, rfl⟩

theorem applyIcons_traces {icons : IconPair} (hicons : d.icons = .loaded icons) :
    Traces (fun calls _ => calls = iconCalls w icons)
      (d.applyIcons w : StateM (Traced σ) Unit) (d.applyIcons w) := by
  refine (setIcons_traces w d.icons.assignments).mono fun calls _ hcalls => ?_
  rw [hcalls, hicons]
  obtain ⟨large, small⟩ := icons
  cases large <;> cases small <;> rfl

theorem loadIcons_traces (path : FilePath) :
    Traces (fun calls result => ∃ extracted : ExtractedIcons,
        calls = [.extractIcons path extracted] ∧
          result = ({ d with icons := .loaded extracted.icons }, extracted.count))
      (d.loadIcons path : StateM (Traced σ) _) (d.loadIcons path) :=
  .ask_bind (fun _ => rfl) fun extracted => .pure ⟨extracted, rfl, rfl⟩

/-- A first load looks at the program's file, if it is known. -/
theorem loadOwnIcons_traces (h : d.icons.isLoaded = false) :
    Traces (fun calls result => d.LoadTrace program calls (result.1, result.2.2))
      (d.loadOwnIcons program : StateM (Traced σ) _) (d.loadOwnIcons program) := by
  simp only [loadOwnIcons]
  cases hsource : d.iconSource program with
  | error reason => exact .pure (.unknown h hsource)
  | ok source =>
    refine .bind (d.loadIcons_traces source) fun _ _ hload => .pure ?_
    obtain ⟨extracted, rfl, rfl⟩ := hload
    exact .asked h hsource

/-- The icons that are put on the window are those that are at hand after the load. -/
theorem applyOwnIcons_traces :
    Traces (fun calls result => ∃ loading icons, d.LoadTrace program loading result ∧
        result.1.icons = .loaded icons ∧ calls = loading ++ iconCalls w icons)
      (d.applyOwnIcons program w : StateM (Traced σ) _) (d.applyOwnIcons program w) := by
  simp only [applyOwnIcons]
  cases h : d.icons.isLoaded with
  | true =>
    have hload : d.LoadTrace program [] (d, []) := .loadedBefore h
    obtain ⟨icons, hicons⟩ := d.exists_icons_of_loadTrace program hload
    refine .bind (d.applyIcons_traces w hicons) fun _ calls hcalls => .pure ?_
    exact ⟨[], icons, hload, hicons, by simp [hcalls]⟩
  | false =>
    refine .bind (d.loadOwnIcons_traces program h) fun ⟨ready, _, events⟩ loading hload => ?_
    obtain ⟨icons, hicons⟩ := d.exists_icons_of_loadTrace program hload
    refine .bind (ready.applyIcons_traces w hicons) fun _ calls hcalls => .pure ?_
    exact ⟨loading, icons, hload, hicons, by simp [hcalls]⟩

/-- **Preparing a window makes these calls.** -/
theorem prepare_traces :
    Traces (d.PreparingTrace program w) (d.prepare program w : StateM (Traced σ) _)
      (d.prepare program w) := by
  refine .bind (d.applyOwnIcons_traces program w) fun ⟨ready, events⟩ _ hicons => ?_
  obtain ⟨loading, icons, hload, hready, rfl⟩ := hicons
  refine .bind (removeResizeAffordances_traces w) fun _ _ hframe => ?_
  obtain ⟨style, rfl⟩ := hframe
  refine .bind (centerReporting_traces w) fun _ centering hcenter => .pure ?_
  obtain ⟨outcome, hcentering, rfl⟩ := hcenter
  have htrace : d.PreparingTrace program w (loading ++ iconCalls w icons ++
      [.style w style, .setStyle w style.withoutResizeAffordances] ++ centering)
      (ready, events ++ eventsOf w outcome) := .intro hload hready hcentering
  simpa using htrace

end Decorator

/-! ## Kinds of calls -/

/-- Which call it is. -/
inductive CallKind where
  | monitorOf
  | workArea
  | bounds
  | move
  | resize
  | flash
  | extractIcons
  | setIcon
  | style
  | setStyle
  | setProgress
  deriving DecidableEq

/-- What kind of call it is, whatever its arguments and its answer. -/
def ManagerCall.kind : ManagerCall → CallKind
  | .monitorOf _ _ => .monitorOf
  | .workArea _ _ => .workArea
  | .bounds _ _ => .bounds
  | .move _ _ => .move
  | .resize _ _ _ => .resize
  | .flash _ _ => .flash
  | .extractIcons _ _ => .extractIcons
  | .setIcon _ _ _ => .setIcon
  | .style _ _ => .style
  | .setStyle _ _ => .setStyle
  | .setProgress _ _ => .setProgress

namespace CenteringTrace

variable {w : WindowHandle} {calls : List ManagerCall} {outcome : Except CenteringError Unit}

/-- Centering makes its calls in this order and may stop early. -/
theorem kinds_prefix (h : CenteringTrace w calls outcome) :
    calls.map ManagerCall.kind <+: [.monitorOf, .workArea, .bounds, .move] := by
  cases h with
  | noMonitor => exact ⟨[.workArea, .bounds, .move], rfl⟩
  | noWorkArea => exact ⟨[.bounds, .move], rfl⟩
  | noBounds => exact ⟨[.move], rfl⟩
  | moved => exact ⟨[], rfl⟩

/-- The window is moved just when centering succeeds. -/
theorem move_mem_iff (h : CenteringTrace w calls outcome) :
    .move ∈ calls.map ManagerCall.kind ↔ outcome = .ok () := by
  cases h <;> simp [ManagerCall.kind]

/-- Every attempt begins by asking for the monitor. -/
theorem exists_kinds_eq (h : CenteringTrace w calls outcome) :
    ∃ later, calls.map ManagerCall.kind = .monitorOf :: later := by
  cases h <;> exact ⟨_, rfl⟩

end CenteringTrace

/-- At most one icon is put into each of the two slots. -/
theorem kinds_iconCalls (w : WindowHandle) (icons : IconPair) :
    ((iconCalls w icons).map ManagerCall.kind).Sublist [.setIcon, .setIcon] := by
  obtain ⟨large, small⟩ := icons
  cases large <;> cases small <;> simp [iconCalls, ManagerCall.kind]

namespace Decorator

variable {d : Decorator} {program : ProgramFile} {w : WindowHandle} {calls : List ManagerCall}
  {result : Decorator × List LogEvent}

/-- The kinds of call that loading may take. -/
def loadKinds (d : Decorator) : List CallKind := if d.icons.isLoaded then [] else [.extractIcons]

/-- Loading takes one look at a file at most, and none where icons are at hand. -/
theorem LoadTrace.kinds_sublist (h : d.LoadTrace program calls result) :
    (calls.map ManagerCall.kind).Sublist d.loadKinds := by
  cases h with
  | loadedBefore => exact List.nil_sublist _
  | unknown => exact List.nil_sublist _
  | asked h =>
    rw [loadKinds, h]
    exact List.Sublist.refl _

namespace PreparingTrace

/-- **Preparing loads first, then puts on icons, fixes the frame and centers.** -/
theorem kinds_sublist (h : d.PreparingTrace program w calls result) :
    (calls.map ManagerCall.kind).Sublist (d.loadKinds ++ [.setIcon, .setIcon] ++ [.style, .setStyle]
      ++ [.monitorOf, .workArea, .bounds, .move]) := by
  cases h with
  | @intro loading centering ready icons style outcome events hload hicons hcenter =>
    have hdressed := hload.kinds_sublist.append (kinds_iconCalls w icons)
    simp only [List.map_append]
    exact (hdressed.append (.refl _)).append hcenter.kinds_prefix.sublist

/-- Whatever became of the icons, the frame is fixed and centering begins. -/
theorem kinds_infix (h : d.PreparingTrace program w calls result) :
    [.style, .setStyle, .monitorOf] <:+: calls.map ManagerCall.kind := by
  cases h with
  | @intro loading centering ready icons style outcome events hload hicons hcenter =>
    obtain ⟨later, hlater⟩ := hcenter.exists_kinds_eq
    refine ⟨(loading ++ iconCalls w icons).map ManagerCall.kind, later, ?_⟩
    simp [ManagerCall.kind, hlater]

end PreparingTrace

end Decorator

/-! ## All window managers -/

section

variable {σ : Type} [WindowManager σ]

/-- What every window manager is asked when a window is centered and when it is prepared. -/
structure CalledInOrder (s : σ) (d : Decorator) (program : ProgramFile) (w : WindowHandle) :
    Prop where
  /-- Writing calls down changes neither the result nor the state. -/
  center_same : (center w (Traced.start s)).1 = (center w s).1 ∧
    (center w (Traced.start s)).2.state = (center w s).2
  /-- The calls are made one after the other, each in the state that the one before left. -/
  center_answered : Answered s (callsOf (center w) s) (center w s).2
  center_calls : CenteringTrace w (callsOf (center w) s) (center w s).1
  /-- The window is moved last, if at all, and nothing else is changed. -/
  center_kinds : (callsOf (center w) s).map ManagerCall.kind <+:
    [.monitorOf, .workArea, .bounds, .move]
  center_moves : .move ∈ (callsOf (center w) s).map ManagerCall.kind ↔ (center w s).1 = .ok ()
  prepare_same : (d.prepare program w (Traced.start s)).1 = (d.prepare program w s).1 ∧
    (d.prepare program w (Traced.start s)).2.state = (d.prepare program w s).2
  prepare_answered : Answered s (callsOf (d.prepare program w) s) (d.prepare program w s).2
  prepare_calls :
    d.PreparingTrace program w (callsOf (d.prepare program w) s) (d.prepare program w s).1
  /-- Nothing is loaded that was loaded before, and no part of the preparation is repeated. -/
  prepare_kinds : ((callsOf (d.prepare program w) s).map ManagerCall.kind).Sublist
    (d.loadKinds ++ [.setIcon, .setIcon] ++ [.style, .setStyle] ++
      [.monitorOf, .workArea, .bounds, .move])
  /-- Whatever became of the icons, the frame is fixed and then the window is centered. -/
  prepare_continues : [.style, .setStyle, .monitorOf] <:+:
    (callsOf (d.prepare program w) s).map ManagerCall.kind

/-- **Calls are made in order**, of every window manager and for every window. -/
theorem calledInOrder (s : σ) (d : Decorator) (program : ProgramFile) (w : WindowHandle) :
    CalledInOrder s d program w := by
  obtain ⟨hresult, hstate, hanswered, hcenter⟩ := (center_traces w).callsOf s
  obtain ⟨hresult', hstate', hanswered', hprepare⟩ := (d.prepare_traces program w).callsOf s
  constructor
  case center_same => exact ⟨hresult, hstate⟩
  case center_answered => exact hanswered
  case center_calls => exact hcenter
  case center_kinds => exact hcenter.kinds_prefix
  case center_moves => exact hcenter.move_mem_iff
  case prepare_same => exact ⟨hresult', hstate'⟩
  case prepare_answered => exact hanswered'
  case prepare_calls => exact hprepare
  case prepare_kinds => exact hprepare.kinds_sublist
  case prepare_continues => exact hprepare.kinds_infix

/-- A file that has a small icon only, and a window that does not exist, on a desktop without
monitors: what there is to do is done. -/
example :
    let desktop := Desktop.empty.addIcons ⟨"launcher"⟩ ⟨1, .ofRaw 0 8⟩
    let d : Decorator := .new .default
    (callsOf (d.prepare (.ok ⟨"launcher"⟩) ⟨4⟩) desktop).map ManagerCall.kind =
      [.extractIcons, .setIcon, .style, .setStyle, .monitorOf] := by decide

end

end WindowDecor
