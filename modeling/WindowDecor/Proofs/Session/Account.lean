import WindowDecor.Proofs.Icons.LazyLoading
import WindowDecor.Proofs.Session.Adapters

/-!
# The log is an account of the run

A reporting adapter hands no failure back, so its log is all that is known of what it did.  Here the
log of a run is written down from the run alone, without looking into the adapter: which actions load
follows from what was asked before, and which attempts to center fail from the desktop.

* `LogRecord` — what reaches the reader of a log; `loadRecord` and `notCenteredRecord` are the two
  things that can, in their exact words.
* `Session.expectedRecords`, `Session.account` — what one action should leave in the log, and what a
  run should.
* `Session.eventsBy` — what a run does leave there on behalf of one adapter.
* **`Session.map_record_events`**, **`Session.map_record_eventsBy`** — the two are the same, for one
  action and for a run.
* **`Session.logsExactly`** — the account, together with the counts that loads hand back
  (`Session.LogsExactly`).
-/

namespace WindowDecor

/-! ## What is read in a log -/

/-- What is written for a log event: how serious it is, what it says and what goes with it. -/
structure LogRecord where
  level : LogLevel
  message : String
  fields : List LogField
  deriving DecidableEq

/-- What is written for an event. -/
def LogEvent.record (e : LogEvent) : LogRecord := ⟨e.level, e.message, e.fields⟩

/-- The entry for a load from `source` that found `count` icons. -/
def loadRecord (source : ProgramFile) (count : UInt32) : LogRecord :=
  match source with
  | .error reason => ⟨.error, "could not determine launcher binary path", [.err reason]⟩
  | .ok path =>
      if count = 0 then ⟨.error, "extracted no icons, expected 2", [.source path.text]⟩
      else if count = 1 then ⟨.warn, "extracted only one icon, expected 2", [.source path.text]⟩
      else if count = 2 then ⟨.debug, "extracted 2 icons", [.source path.text]⟩
      else
        ⟨.error, "extracted " ++ toString count.toNat ++ " icons, expected 2", [.source path.text]⟩

/-- The entry for a window that could not be centered. -/
def notCenteredRecord (w : WindowHandle) (e : CenteringError) : LogRecord :=
  ⟨.error, "could not center window: " ++ e.describe,
    [.window w.describe, .code (centeringStatus (.error e))]⟩

theorem message_iconsLoaded (path : FilePath) (count : UInt32) :
    (LogEvent.iconsLoaded path count).message =
      if count = 0 then "extracted no icons" ++ (", expected " ++ Numeral.decimal 2)
      else if count = 1 then "extracted only one icon" ++ (", expected " ++ Numeral.decimal 2)
      else if count = 2 then "extracted " ++ Numeral.decimal count.toNat ++ " icons"
      else "extracted " ++ Numeral.decimal count.toNat ++ " icons" ++
        (", expected " ++ Numeral.decimal 2) := rfl

/-- **The level and the words of a load follow from how many icons it found.** -/
theorem record_iconsLoaded (path : FilePath) (count : UInt32) :
    (LogEvent.iconsLoaded path count).record = loadRecord (.ok path) count := by
  have hlevel : (LogEvent.iconsLoaded path count).level =
      if count = 2 then .debug else if count = 1 then .warn else .error := rfl
  have htwo : Numeral.decimal 2 = "2" := by decide
  rw [LogEvent.record, message_iconsLoaded, hlevel, htwo, loadRecord]
  by_cases hzero : count = 0
  · subst hzero
    rfl
  by_cases hone : count = 1
  · subst hone
    rfl
  by_cases hcount : count = 2
  · subst hcount
    rfl
  simp only [hzero, hone, hcount, if_false, String.append_assoc]
  rfl

/-! ## One action -/

/-- The window that a reporting adapter is to center. -/
def DecoratorAction.centers? : DecoratorAction → Option WindowHandle
  | .center w | .prepare w => some w
  | _ => none

/-- The entry for an attempt to center a window, if it fails. -/
def Desktop.centerRecords (d : Desktop) (w : WindowHandle) : List LogRecord :=
  match (center w d).1 with
  | .ok () => []
  | .error e => [notCenteredRecord w e]

/-- Centering is logged just when it fails, as an error. -/
theorem Desktop.map_record_centerEvents (d : Desktop) (w : WindowHandle) :
    (d.centerEvents w).map LogEvent.record = d.centerRecords w := by
  simp only [centerEvents, centerRecords]
  cases (center w d).1 <;> rfl

/-- A load is logged once, with the file and the number of icons. -/
theorem Decorator.map_record_loadEvents (d : Decorator) (program : ProgramFile)
    (desktop : Desktop) : (d.loadEvents program desktop).map LogEvent.record =
      [loadRecord (d.iconSource program) (desktop.countAt (d.iconSource program))] := by
  simp only [loadEvents, Desktop.countAt]
  cases d.iconSource program with
  | error reason => rfl
  | ok path => exact congrArg (fun record => [record]) (record_iconsLoaded path _)

/-- A reporting adapter stays one, with its settings, and has loaded once icons were needed. -/
theorem Adapter.exists_next (d : Decorator) (program : ProgramFile) (desktop : Desktop)
    (action : DecoratorAction) : ∃ d' : Decorator,
      (Adapter.mk .reporting d).next program desktop action = ⟨.reporting, d'⟩ ∧
        d'.settings = d.settings ∧ d'.icons.isLoaded = (d.icons.isLoaded || action.needsIcons) := by
  cases action with
  | applyIcons w =>
    refine ⟨_, rfl, d.settings_ready program desktop, ?_⟩
    rw [d.isLoaded_ready program desktop, DecoratorAction.needsIcons, Bool.or_true]
  | prepare w =>
    refine ⟨_, rfl, d.settings_ready program desktop, ?_⟩
    rw [d.isLoaded_ready program desktop, DecoratorAction.needsIcons, Bool.or_true]
  | loadOwnIcons =>
    refine ⟨_, rfl, d.settings_loaded program desktop, ?_⟩
    rw [d.isLoaded_loaded program desktop, DecoratorAction.needsIcons, Bool.or_true]
  | _ => exact ⟨d, rfl, rfl, (Bool.or_false _).symm⟩

namespace Session

/-- What an action should leave in the log, if there was a load before or not: an entry for a load,
if it is one, and then one for a window that cannot be centered. -/
def expectedRecords (s : Session) (settings : Settings) (loaded : Bool)
    (action : DecoratorAction) : List LogRecord :=
  (if action = .loadOwnIcons ∨ action.needsIcons ∧ loaded = false then
    [loadRecord (s.sourceOf settings) (s.desktop.countAt (s.sourceOf settings))] else []) ++
  (action.centers?.map s.desktop.centerRecords).getD []

variable {s : Session} {index : Nat} {d : Decorator}

/-- **One action leaves in the log what it should.** -/
theorem map_record_events (ha : s.adapters[index]? = some ⟨.reporting, d⟩)
    (action : DecoratorAction) :
    (s.step (.adapter index action)).2.events.map LogEvent.record =
      s.expectedRecords d.settings d.icons.isLoaded action := by
  have hload : (d.loadEvents s.program s.desktop).map LogEvent.record =
      [loadRecord (s.sourceOf d.settings) (s.desktop.countAt (s.sourceOf d.settings))] := by
    rw [d.map_record_loadEvents, iconSource_eq_sourceOf]
  have hcenter := s.desktop.map_record_centerEvents
  rw [step_adapter_eq ha]
  cases action with
  | loadOwnIcons =>
    rw [Adapter.events, hload]
    simp [expectedRecords, DecoratorAction.centers?]
  | applyIcons w =>
    rw [Adapter.events, Decorator.ownIconEvents]
    cases hloaded : d.icons.isLoaded with
    | true => simp [expectedRecords, DecoratorAction.centers?]
    | false => simp [expectedRecords, DecoratorAction.centers?, DecoratorAction.needsIcons, hload]
  | prepare w =>
    rw [Adapter.events, Decorator.ownIconEvents, List.map_append, hcenter]
    cases hloaded : d.icons.isLoaded with
    | true => simp [expectedRecords, DecoratorAction.centers?]
    | false => simp [expectedRecords, DecoratorAction.centers?, DecoratorAction.needsIcons, hload]
  | center w =>
    rw [Adapter.events, hcenter]
    simp [expectedRecords, DecoratorAction.centers?, DecoratorAction.needsIcons]
  | _ => simp [Adapter.events, expectedRecords, DecoratorAction.centers?, DecoratorAction.needsIcons]

/-! ## Runs -/

/-- What a run leaves in the log on behalf of one adapter: the events of the steps that ask something
of it. -/
def eventsBy (s : Session) (index : Nat) (steps : List Step) : List LogEvent :=
  ((steps.zip (s.run steps).2).filter fun p => (p.1.actionOn? index).isSome).flatMap (·.2.events)

theorem eventsBy_cons (s : Session) (index : Nat) (step : Step) (steps : List Step) :
    s.eventsBy index (step :: steps) =
      (if (step.actionOn? index).isSome then (s.step step).2.events else []) ++
        (s.step step).1.eventsBy index steps := by
  have houtcomes : (s.run (step :: steps)).2 =
      (s.step step).2 :: ((s.step step).1.run steps).2 := rfl
  rw [eventsBy, houtcomes, List.zip_cons_cons, List.filter_cons]
  split <;> rfl

/-- What a run should leave in the log on behalf of one adapter with the given settings, if it has
loaded icons before or not. -/
def account (s : Session) (index : Nat) (settings : Settings) (loaded : Bool) :
    List Step → List LogRecord
  | [] => []
  | step :: steps =>
      match step.actionOn? index with
      | none => (s.step step).1.account index settings loaded steps
      | some action =>
          s.expectedRecords settings loaded action ++
            (s.step step).1.account index settings (loaded || action.needsIcons) steps

/-- **The log is an account of the run**, action by action. -/
theorem map_record_eventsBy (ha : s.adapters[index]? = some ⟨.reporting, d⟩) (steps : List Step) :
    (s.eventsBy index steps).map LogEvent.record =
      s.account index d.settings d.icons.isLoaded steps := by
  induction steps generalizing s d with
  | nil => rfl
  | cons step steps ih =>
    rw [eventsBy_cons, List.map_append, account]
    cases hstep : step.actionOn? index with
    | none => exact ih (adapter_step_of_others ha hstep)
    | some action =>
      obtain rfl := Step.actionOn?_eq_some hstep
      obtain ⟨d', hnext, hsettings, hloaded⟩ := Adapter.exists_next d s.program s.desktop action
      have ha' := adapter_step ha action
      rw [hnext] at ha'
      have hrest := ih ha'
      rw [hsettings, hloaded] at hrest
      exact congrArg₂ (· ++ ·) (map_record_events ha action) hrest

/-- A reporting adapter is still there after a run, with the settings it was made with. -/
theorem exists_adapter_after (ha : s.adapters[index]? = some ⟨.reporting, d⟩) (steps : List Step) :
    ∃ d' : Decorator, (s.after steps).adapters[index]? = some ⟨.reporting, d'⟩ ∧
      d'.settings = d.settings := by
  obtain ⟨⟨kind, d'⟩, hadapter, hsame⟩ := adapter_after ha steps
  obtain ⟨rfl, hsettings⟩ := Prod.mk.inj hsame
  exact ⟨d', hadapter, hsettings⟩

/-- All that a run leaves in the log. -/
def log (s : Session) (steps : List Step) : List LogEvent :=
  (s.run steps).2.flatMap (·.events)

theorem log_cons (s : Session) (step : Step) (steps : List Step) :
    s.log (step :: steps) = (s.step step).2.events ++ (s.step step).1.log steps := rfl

/-- If all steps ask one adapter, the log is that adapter's. -/
theorem eventsBy_eq_log {steps : List Step}
    (hall : ∀ step ∈ steps, (step.actionOn? index).isSome) : s.eventsBy index steps = s.log steps := by
  induction steps generalizing s with
  | nil => rfl
  | cons step steps ih =>
    rw [eventsBy_cons, if_pos (hall step List.mem_cons_self), log_cons,
      ih fun step hstep => hall step (List.mem_cons_of_mem _ hstep)]

/-- What the log of a reporting adapter is good for. -/
structure LogsExactly (s : Session) (index : Nat) (d : Decorator) (steps : List Step) : Prop where
  records : (s.eventsBy index steps).map LogEvent.record =
    s.account index d.settings d.icons.isLoaded steps
  /-- Where nothing else is done, that is the whole log. -/
  log : (∀ step ∈ steps, (step.actionOn? index).isSome) →
    (s.log steps).map LogEvent.record = s.account index d.settings d.icons.isLoaded steps
  /-- The number of icons in the entry for a load is the one that is handed back. -/
  counts : ∀ earlier later, steps = earlier ++ .adapter index .loadOwnIcons :: later →
    ((s.after earlier).step (.adapter index .loadOwnIcons)).2.result =
      .action (.count ((s.after earlier).desktop.countAt (s.sourceOf d.settings)))

/-- **A reporting adapter logs each load and each window that it could not center, and nothing
else**, in every run and whatever else happens on the desktop. -/
theorem logsExactly (s : Session) (index : Nat) (d : Decorator)
    (ha : s.adapters[index]? = some ⟨.reporting, d⟩) (steps : List Step) :
    s.LogsExactly index d steps := by
  constructor
  case records => exact map_record_eventsBy ha steps
  case log =>
    intro hall
    rw [← eventsBy_eq_log hall]
    exact map_record_eventsBy ha steps
  case counts =>
    intro earlier later _
    obtain ⟨d', hadapter, hsettings⟩ := exists_adapter_after ha earlier
    have hsource : s.sourceOf d.settings = d'.iconSource (s.after earlier).program := by
      rw [iconSource_eq_sourceOf, sourceOf_after, hsettings]
    rw [step_adapter_eq hadapter, hsource]
    rfl

/-- A file with one icon, on a desktop without monitors: `prepare` leaves an entry for its load and one
for its attempt to center, `applyIcons` then leaves none, and a further load leaves one.  The file is
the running program's, or one that the settings name where the program's is not known. -/
theorem logsExactly_oneIcon :
    let start (program : ProgramFile) (file : FilePath) (settings : Settings) : Session :=
      { program
        desktop := Desktop.empty.addIcons file ⟨1, .ofRaw 7 0⟩
        adapters := [.new .reporting settings] }
    let own := start (.ok ⟨"launcher"⟩) ⟨"launcher"⟩ .default
    let themed : Settings := .withIconSource .default ⟨"theme.ico"⟩
    let named := start (.error "no such process") ⟨"theme.ico"⟩ themed
    let steps : List Step :=
      [.adapter 0 (.prepare ⟨4⟩), .adapter 0 (.applyIcons ⟨4⟩), .adapter 0 .loadOwnIcons]
    let expected (file : String) : List LogRecord :=
      let oneIcon : LogRecord := ⟨.warn, "extracted only one icon, expected 2", [.source file]⟩
      [oneIcon, ⟨.error, "could not center window: getting monitor from window failed",
        [.window "WindowHandle(0x4)", .code 1]⟩, oneIcon]
    (own.adapters[0]? = some ⟨.reporting, .new .default⟩ ∧
      own.LogsExactly 0 (.new .default) steps ∧
        (own.log steps).map LogEvent.record = expected "launcher") ∧
      named.adapters[0]? = some ⟨.reporting, .new themed⟩ ∧
      named.LogsExactly 0 (.new themed) steps ∧
        (named.log steps).map LogEvent.record = expected "theme.ico" := by
  intro start own themed named steps expected
  have hown : own.adapters[0]? = some ⟨.reporting, .new .default⟩ := rfl
  have hnamed : named.adapters[0]? = some ⟨.reporting, .new themed⟩ := rfl
  exact ⟨⟨hown, logsExactly own 0 (.new .default) hown steps, by decide⟩,
    hnamed, logsExactly named 0 (.new themed) hnamed steps, by decide⟩

end Session

end WindowDecor
