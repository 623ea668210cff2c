import Mathlib.Data.List.Basic
import WindowDecor.Proofs.Icons.Assignments
import WindowDecor.Proofs.Session.Account

/-!
# Records are transcripts

Each of the desktop's four records can be written down by somebody who only hears what is asked, and
never looks at the desktop or into an adapter.

* `Record` — the four records; `Desktop.record`, `DesktopAction.entry?` and
  **`Desktop.record_perform`** speak of all of them at once.
* `DecoratorAction.records` — the records that an action is meant for, and
  **`Adapter.requests_filterMap_entry?`** that it reaches no other.
* `Profile` — what can be known of an adapter from hearing: its kind, its settings, and whether it
  has tried to load icons.  `Session.profiles_step` — **nothing else is needed to keep up**.
* `transcript` — what one writes down in a run.
* **`Session.recordsExact_after`** — the records are that (`Session.RecordsExact`).
-/

namespace WindowDecor

/-! ## The four records -/

/-- What the desktop keeps a record of. -/
inductive Record where
  | extractions
  | assignments
  | flashes
  | progress
  deriving DecidableEq

/-- What an entry of a record is. -/
abbrev Record.Entry : Record → Type
  | .extractions => FilePath
  | .assignments => IconAssignment
  | .flashes => FlashRequest
  | .progress => ProgressMessage

namespace DesktopAction

/-- The flashing that an action is. -/
def flash? : DesktopAction → Option FlashRequest
  | .flash w count => some ⟨w, count⟩
  | _ => none

/-- The message to a progress bar that an action is. -/
def progress? : DesktopAction → Option ProgressMessage
  | .setProgress bar state => some ⟨bar, state⟩
  | _ => none

/-- What an action comes to in a record. -/
def entry? : (k : Record) → DesktopAction → Option k.Entry
  | .extractions => extraction?
  | .assignments => assignment?
  | .flashes => flash?
  | .progress => progress?

end DesktopAction

namespace Desktop

/-- The entries of a record on a desktop. -/
def record : (k : Record) → Desktop → List k.Entry
  | .extractions, d => d.extractions
  | .assignments, d => d.assignments
  | .flashes, d => d.flashes
  | .progress, d => d.progress

@[simp] theorem flashes_perform (d : Desktop) (action : DesktopAction) :
    (d.perform action).1.flashes = d.flashes ++ action.flash?.toList := by
  cases action <;> simp [perform, DesktopAction.flash?, noteExtraction, addMonitor, addWindow,
    destroyWindow, addIcons, failWindowBounds, failMonitorInfo, move, resize, flash, setIcon,
    setStyle, setProgress, changeWindow]

@[simp] theorem progress_perform (d : Desktop) (action : DesktopAction) :
    (d.perform action).1.progress = d.progress ++ action.progress?.toList := by
  cases action <;> simp [perform, DesktopAction.progress?, noteExtraction, addMonitor, addWindow,
    destroyWindow, addIcons, failWindowBounds, failMonitorInfo, move, resize, flash, setIcon,
    setStyle, setProgress, changeWindow]

/-- **An action is written down once, in its record.** -/
theorem record_perform (k : Record) (d : Desktop) (action : DesktopAction) :
    (d.perform action).1.record k = d.record k ++ (action.entry? k).toList := by
  cases k with
  | extractions => exact d.extractions_perform action
  | assignments => exact d.assignments_perform action
  | flashes => exact d.flashes_perform action
  | progress => exact d.progress_perform action

end Desktop

/-- A step adds to a record what its changes come to there. -/
theorem Session.record_step (s : Session) (step : Step) (k : Record) :
    (s.step step).1.desktop.record k =
      s.desktop.record k ++ (s.changes step).filterMap (DesktopAction.entry? k) := by
  rw [desktop_step]
  exact Desktop.record_performAll (Desktop.record_perform k) s.desktop (s.changes step)

/-! ## Which records an action is meant for -/

/-- The records that an action of an adapter is meant for. -/
def DecoratorAction.records (kind : AdapterKind) : DecoratorAction → List Record
  | .flash _ => [.flashes]
  | .setProgress _ _ => [.progress]
  | .plainApplyIcons _ => [.assignments]
  | .applyIcons _ =>
      match kind with
      | .plain => [.assignments]
      | .reporting => [.extractions, .assignments]
  | .loadIconsFrom _ =>
      match kind with
      | .plain => [.extractions]
      | .reporting => []
  | .loadOwnIcons =>
      match kind with
      | .plain => []
      | .reporting => [.extractions]
  | .prepare _ =>
      match kind with
      | .plain => []
      | .reporting => [.extractions, .assignments]
  | .width _ | .height _ | .resize _ _ _ | .center _ | .plainCenter _ | .fixStyle _ => []

/-- The record that an action on the desktop is meant for. -/
def DesktopAction.records : DesktopAction → List Record
  | .extractIcons _ => [.extractions]
  | .setIcon _ _ _ => [.assignments]
  | .flash _ _ => [.flashes]
  | .setProgress _ _ => [.progress]
  | _ => []

/-- Each record has its own kind of action. -/
theorem DesktopAction.entry?_eq_none {r : DesktopAction} {k : Record} (hk : k ∉ r.records) :
    r.entry? k = none := by
  cases k with
  | extractions =>
    show r.extraction? = none
    cases r <;> simp_all [extraction?, records]
  | assignments =>
    show r.assignment? = none
    cases r <;> simp_all [assignment?, records]
  | flashes =>
    show r.flash? = none
    cases r <;> simp_all [flash?, records]
  | progress =>
    show r.progress? = none
    cases r <;> simp_all [progress?, records]

/-- Moves are kept in no record. -/
theorem Desktop.records_of_mem_centerRequests {d : Desktop} {w : WindowHandle} {r : DesktopAction}
    (hr : r ∈ d.centerRequests w) : r.records = [] := by
  obtain ⟨origin, rfl⟩ := Desktop.eq_move_of_mem_centerRequests hr
  rfl

namespace Decorator

variable {d : Decorator} {program : ProgramFile} {desktop : Desktop} {w : WindowHandle}
  {r : DesktopAction}

theorem records_of_mem_iconRequests (hr : r ∈ d.iconRequests w) : r.records = [.assignments] := by
  obtain ⟨assignment, -, rfl⟩ := List.mem_map.mp hr
  rfl

theorem records_of_mem_loadRequests (hr : r ∈ d.loadRequests program) :
    r.records = [.extractions] := by
  simp only [loadRequests] at hr
  split at hr
  · cases hr
  · obtain rfl := List.mem_singleton.mp hr
    rfl

/-- An adapter's own icons are kept as looks at files and as assignments only. -/
theorem records_of_mem_ownIconRequests (hr : r ∈ d.ownIconRequests program desktop w) :
    r.records ⊆ [.extractions, .assignments] := by
  rcases d.ownIconRequests_cases program desktop w hr with ⟨slot, icon, rfl⟩ | ⟨path, rfl⟩
  · exact List.subset_cons_self _ _
  · simp [DesktopAction.records]

theorem records_of_mem_prepareRequests (hr : r ∈ d.prepareRequests program desktop w) :
    r.records ⊆ [.extractions, .assignments] := by
  simp only [prepareRequests, List.mem_append] at hr
  rcases hr with (hicon | hframe) | hcenter
  · exact records_of_mem_ownIconRequests hicon
  · obtain rfl := List.mem_singleton.mp hframe
    exact List.nil_subset _
  · rw [Desktop.records_of_mem_centerRequests hcenter]
    exact List.nil_subset _

end Decorator

namespace Adapter

variable {a : Adapter} {program : ProgramFile} {desktop : Desktop} {action : DecoratorAction}

/-- What adapters ask for is recorded where the action is meant to be. -/
theorem records_of_mem_requests {r : DesktopAction} (hr : r ∈ a.requests program desktop action) :
    r.records ⊆ action.records a.kind := by
  obtain ⟨kind, d⟩ := a
  cases action with
  | width w => cases hr
  | height w => cases hr
  | resize w width height =>
    obtain rfl := List.mem_singleton.mp hr
    exact List.nil_subset _
  | flash w =>
    obtain rfl := List.mem_singleton.mp hr
    exact List.Subset.refl _
  | setProgress bar state =>
    obtain rfl := List.mem_singleton.mp hr
    exact List.Subset.refl _
  | center w => exact Desktop.records_of_mem_centerRequests hr ▸ List.nil_subset _
  | plainCenter w => exact Desktop.records_of_mem_centerRequests hr ▸ List.nil_subset _
  | fixStyle w =>
    obtain rfl := List.mem_singleton.mp hr
    exact List.nil_subset _
  | plainApplyIcons w => exact Decorator.records_of_mem_iconRequests hr ▸ List.Subset.refl _
  | applyIcons w =>
    cases kind with
    | plain => exact Decorator.records_of_mem_iconRequests hr ▸ List.Subset.refl _
    | reporting => exact Decorator.records_of_mem_ownIconRequests hr
  | loadIconsFrom path =>
    cases kind with
    | plain =>
      obtain rfl := List.mem_singleton.mp hr
      exact List.Subset.refl _
    | reporting => cases hr
  | loadOwnIcons =>
    cases kind with
    | plain => cases hr
    | reporting => exact Decorator.records_of_mem_loadRequests hr ▸ List.Subset.refl _
  | prepare w =>
    cases kind with
    | plain => cases hr
    | reporting => exact Decorator.records_of_mem_prepareRequests hr

/-- **An action reaches no record that it is not meant for.** -/
theorem requests_filterMap_entry? {k : Record} (hk : k ∉ action.records a.kind) :
    (a.requests program desktop action).filterMap (DesktopAction.entry? k) = [] := by
  refine List.filterMap_eq_nil_iff.mpr fun r hr => DesktopAction.entry?_eq_none fun hmem => ?_
  exact hk (records_of_mem_requests hr hmem)

end Adapter

/-- The records that a step is meant for. -/
def Session.records (s : Session) : Step → List Record
  | .desktop action => action.records
  | .adapter index action =>
      match s.adapters[index]? with
      | none => []
      | some a => action.records a.kind
  | _ => []

/-- **A step leaves the records that it is not meant for.** -/
theorem Session.record_step_of_notMem {s : Session} {step : Step} {k : Record}
    (hk : k ∉ s.records step) : (s.step step).1.desktop.record k = s.desktop.record k := by
  rw [record_step]
  suffices hnone : (s.changes step).filterMap (DesktopAction.entry? k) = [] by
    rw [hnone, List.append_nil]
  cases step with
  | desktop action => simp [changes, DesktopAction.entry?_eq_none hk]
  | adapter index action =>
    cases ha : s.adapters[index]? with
    | none => simp [changes, ha]
    | some a =>
      simp only [records, ha] at hk
      simp only [changes, ha, Adapter.requests_filterMap_entry? hk]
  | _ => rfl

/-! ## What can be known of adapters -/

/-- What can be known of an adapter from what it was made with and what was asked of it. -/
structure Profile where
  kind : AdapterKind
  given : Settings
  /-- Whether it has tried to load icons. -/
  loaded : Bool
  deriving DecidableEq

/-- Whether an action leaves an adapter of the given kind with icons, or knowing that there are
none. -/
def DecoratorAction.fills (kind : AdapterKind) (action : DecoratorAction) : Bool :=
  match kind, action with
  | .plain, .loadIconsFrom _ => true
  | .plain, _ => false
  | .reporting, _ => action.needsIcons

namespace Profile

/-- What is known of an adapter: its kind, its settings and whether it has loaded. -/
def of (a : Adapter) : Profile := ⟨a.kind, a.decorator.settings, a.decorator.icons.isLoaded⟩

/-- What is known after one more action. -/
def asked (p : Profile) (action : DecoratorAction) : Profile :=
  { p with loaded := p.loaded || action.fills p.kind }

/-- The file in which an action has the adapter look for icons.  A plain adapter is told it.  A
reporting one looks when it is told to, and when it needs icons for the first time, and it knows by
itself where, if it can be known. -/
def look? (program : ProgramFile) (p : Profile) (action : DecoratorAction) : Option FilePath :=
  match p.kind, action with
  | .plain, .loadIconsFrom path => some path
  | .plain, _ => none
  | .reporting, _ =>
      if action = .loadOwnIcons ∨ action.needsIcons ∧ p.loaded = false then
        match p.given.iconSource with
        | some path => some path
        | none => program.toOption
      else none

/-- An adapter flashes as many times as it was made to. -/
def flash? (p : Profile) : DecoratorAction → Option FlashRequest
  | .flash w => some ⟨w, p.given.flashCount⟩
  | _ => none

/-- An adapter sends a progress bar the state that it is given. -/
def progress? (_ : Profile) : DecoratorAction → Option ProgressMessage
  | .setProgress bar state => some ⟨bar, state⟩
  | _ => none

/-- An action leaves the adapter as can be known. -/
@[simp] theorem of_next (a : Adapter) (program : ProgramFile) (desktop : Desktop)
    (action : DecoratorAction) : of (a.next program desktop action) = (of a).asked action := by
  obtain ⟨kind, d⟩ := a
  cases kind with
  | plain =>
    cases action with
    | loadIconsFrom path => simp [of, asked, DecoratorAction.fills, Adapter.next]
    | _ => simp [of, asked, DecoratorAction.fills, Adapter.next]
  | reporting =>
    obtain ⟨d', hnext, hsettings, hloaded⟩ := Adapter.exists_next d program desktop action
    simp only [of, asked, DecoratorAction.fills, hnext, hsettings, hloaded]

end Profile

/-- What is known of all adapters after one more step. -/
def Step.profiles (known : List Profile) : Step → List Profile
  | .newAdapter kind (.ok given) => known ++ [⟨kind, given, false⟩]
  | .adapter index action => known.modify index (·.asked action)
  | _ => known

namespace Session

/-- What is known of the adapters, in the order in which they were made. -/
def profiles (s : Session) : List Profile := s.adapters.map .of

theorem profiles_getElem? (s : Session) (index : Nat) :
    s.profiles[index]? = s.adapters[index]?.map .of := List.getElem?_map

/-- **One can keep up with the adapters without looking at them.** -/
theorem profiles_step (s : Session) (step : Step) :
    (s.step step).1.profiles = step.profiles s.profiles := by
  cases step with
  | newAdapter kind settings =>
    cases settings with
    | error e => rfl
    | ok given => exact List.map_append
  | adapter index action =>
    rw [Step.profiles, List.modify_eq_set_getElem?, profiles_getElem?]
    cases ha : s.adapters[index]? with
    | none =>
      simp only [Session.step, ha]
      rfl
    | some a =>
      rw [step_adapter ha]
      show (s.adapters.set index _).map Profile.of = s.profiles.set index ((Profile.of a).asked action)
      rw [List.map_set, Profile.of_next]
      rfl
  | _ => rfl

end Session

/-- The file that icons come from, if it can be known. -/
theorem Decorator.toOption_iconSource (d : Decorator) (program : ProgramFile) :
    (d.iconSource program).toOption =
      match d.settings.iconSource with
      | some path => some path
      | none => program.toOption := by
  cases hsource : d.settings.iconSource with
  | none => simp only [iconSource, hsource]
  | some path => simp only [iconSource, hsource, Except.toOption]

/-! ## Transcripts -/

/-- What a step comes to in a record, if `own?` says it of what adapters are asked.  What is done to
the desktop directly is heard as it is. -/
def Step.entry? {k : Record} (own? : Profile → DecoratorAction → Option k.Entry)
    (known : List Profile) : Step → Option k.Entry
  | .desktop action => action.entry? k
  | .adapter index action => known[index]?.bind (own? · action)
  | _ => none

/-- What one writes down in a run, who knows of the adapters what can be known. -/
def transcript (k : Record) (own? : Profile → DecoratorAction → Option k.Entry)
    (known : List Profile) : List Step → List k.Entry
  | [] => []
  | step :: steps =>
      (step.entry? own? known).toList ++ transcript k own? (step.profiles known) steps

namespace Adapter

variable (a : Adapter) (program : ProgramFile) (desktop : Desktop) (action : DecoratorAction)

/-- An action has the adapter look at the file that its profile tells, if at any. -/
theorem requests_filterMap_look? :
    (a.requests program desktop action).filterMap (DesktopAction.entry? .extractions) =
      ((Profile.of a).look? program action).toList := by
  obtain ⟨kind, d⟩ := a
  cases kind with
  | plain =>
    cases action with
    | loadIconsFrom path => rfl
    | _ => exact requests_filterMap_entry? (by simp [DecoratorAction.records])
  | reporting =>
    refine (requests_filterMap rfl program desktop).trans ?_
    by_cases hloads : action = .loadOwnIcons ∨ action.needsIcons ∧ d.icons.isLoaded = false
    · have hlook : (Profile.of ⟨.reporting, d⟩).look? program action =
          (d.iconSource program).toOption :=
        (if_pos hloads).trans (d.toOption_iconSource program).symm
      rw [hlook, if_pos (by simpa [loadsFor] using hloads)]
    · have hlook : (Profile.of ⟨.reporting, d⟩).look? program action = none := if_neg hloads
      rw [hlook, if_neg (by simpa [loadsFor] using hloads)]
      rfl

theorem requests_filterMap_flash? :
    (a.requests program desktop action).filterMap (DesktopAction.entry? .flashes) =
      ((Profile.of a).flash? action).toList := by
  cases action with
  | flash w => rfl
  | _ => exact requests_filterMap_entry? (by cases a.kind <;> simp [DecoratorAction.records])

theorem requests_filterMap_progress? :
    (a.requests program desktop action).filterMap (DesktopAction.entry? .progress) =
      ((Profile.of a).progress? action).toList := by
  cases action with
  | setProgress bar state => rfl
  | _ => exact requests_filterMap_entry? (by cases a.kind <;> simp [DecoratorAction.records])

end Adapter

namespace Session

variable {k : Record} {own? : Profile → DecoratorAction → Option k.Entry}

/-- What can be said of adapters can be said of steps. -/
theorem changes_filterMap_entry? (s : Session)
    (hown : ∀ a desktop action, (Adapter.requests a s.program desktop action).filterMap
      (DesktopAction.entry? k) = (own? (.of a) action).toList) (step : Step) :
    (s.changes step).filterMap (DesktopAction.entry? k) =
      (step.entry? own? s.profiles).toList := by
  cases step with
  | desktop action =>
    simp only [changes, Step.entry?]
    cases haction : action.entry? k <;> simp [haction]
  | adapter index action =>
    simp only [changes, Step.entry?, profiles_getElem?]
    cases ha : s.adapters[index]? with
    | none => rfl
    | some a => exact hown a s.desktop action
  | _ => rfl

/-- **And of runs**: a record of which every entry can be told is a transcript. -/
theorem record_after (s : Session)
    (hown : ∀ a desktop action, (Adapter.requests a s.program desktop action).filterMap
      (DesktopAction.entry? k) = (own? (.of a) action).toList) (steps : List Step) :
    (s.after steps).desktop.record k =
      s.desktop.record k ++ transcript k own? s.profiles steps := by
  induction steps generalizing s with
  | nil => exact (List.append_nil _).symm
  | cons step steps ih =>
    have hrest := ih (s.step step).1 (s.program_step step ▸ hown)
    rw [after_cons, hrest, record_step, changes_filterMap_entry? s hown, profiles_step, transcript,
      List.append_assoc]

/-- **Records only grow**, at their end. -/
theorem record_prefix_after (s : Session) (steps : List Step) (k : Record) :
    s.desktop.record k <+: (s.after steps).desktop.record k := by
  induction steps generalizing s with
  | nil => exact List.prefix_refl _
  | cons step steps ih =>
    refine List.IsPrefix.trans ?_ (ih (s.step step).1)
    rw [record_step]
    exact List.prefix_append _ _

/-- The records of a run that began on an empty desktop. -/
structure RecordsExact (s : Session) (steps : List Step) : Prop where
  progress : (s.after steps).desktop.progress = transcript .progress Profile.progress? [] steps
  flashes : (s.after steps).desktop.flashes = transcript .flashes Profile.flash? [] steps
  extractions : (s.after steps).desktop.extractions =
    transcript .extractions (Profile.look? s.program) [] steps
  /-- Nothing that was recorded is changed or taken out again. -/
  growing : ∀ later k,
    (s.after steps).desktop.record k <+: (s.after (steps ++ later)).desktop.record k
  /-- No step adds to a record that it is not meant for. -/
  others : ∀ step k, k ∉ (s.after steps).records step →
    (s.after (steps ++ [step])).desktop.record k = (s.after steps).desktop.record k

/-- **Records are transcripts of what was asked**, by however many adapters and for whatever
handles. -/
theorem recordsExact_after (program : ProgramFile) (steps : List Step) :
    (new program).RecordsExact steps := by
  constructor
  case progress =>
    exact record_after (k := .progress) (new program)
      (fun a desktop action => a.requests_filterMap_progress? program desktop action) steps
  case flashes =>
    exact record_after (k := .flashes) (new program)
      (fun a desktop action => a.requests_filterMap_flash? program desktop action) steps
  case extractions =>
    exact record_after (k := .extractions) (new program)
      (fun a desktop action => a.requests_filterMap_look? program desktop action) steps
  case growing =>
    intro later k
    rw [after_append]
    exact record_prefix_after _ later k
  case others =>
    intro step k hk
    rw [after_snoc, record_step_of_notMem hk]

/-- Two adapters and handles that were never given out.  The first call comes before there is an
adapter to hear it; of the two that could load icons for the reporting one, the first does. -/
example :
    let steps : List Step :=
      [.adapter 0 (.flash ⟨4⟩), .newAdapter .plain (.ok { flashCount := 7 }),
        .newAdapter .reporting (.ok .default), .adapter 0 (.flash ⟨4⟩), .adapter 1 (.flash ⟨-8⟩),
        .adapter 0 (.loadIconsFrom ⟨"icons//app/"⟩), .adapter 0 (.applyIcons ⟨4⟩),
        .adapter 1 (.prepare ⟨4⟩), .adapter 1 (.prepare ⟨8⟩), .adapter 1 (.setProgress ⟨0⟩ ⟨-5⟩)]
    transcript .flashes Profile.flash? [] steps = [⟨⟨4⟩, 7⟩, ⟨⟨-8⟩, 2⟩] ∧
      transcript .extractions (Profile.look? (.ok ⟨"launcher"⟩)) [] steps =
        [⟨"icons//app/"⟩, ⟨"launcher"⟩] ∧
      transcript .progress Profile.progress? [] steps = [⟨⟨0⟩, ⟨-5⟩⟩] := by decide

end Session

end WindowDecor
