import WindowDecor.Proofs.Session.Account
import WindowDecor.Proofs.Session.History
import WindowDecor.Proofs.Text.Digits

/-!
# Windows that a log names

A log knows a window by the text of its handle.  Whoever reads the log has only that text to find the
window by, so no two handles may have the same one, whatever their signs, and the number has to be
found in it.

* `WindowHandle.IsText` — the texts that name a window, said apart from how they are written.
* **`WindowHandle.isText_iff`** — they are the texts of handles, each that of one number alone, and
  so `WindowHandle.describe_inj`: handles with the same text are the same.
* `LogRecord.windowTexts`, `Session.windowTexts` — the texts by which an entry of a log, and the log of
  a run, name windows.
* **`Session.describe_mem_windowTexts_iff`** — the windows that are named are those that could not be
  centered, by induction on the run.
* **`Session.namesWindows`** — all of it.
-/

namespace WindowDecor

/-! ## The text of a handle -/

namespace WindowHandle

/-- The text names the window with the number `raw`: it holds the digits of the number's word. -/
def IsText (text : String) (raw : Int) : Prop :=
  ∃ digits, text = "WindowHandle(0x" ++ String.ofList digits ++ ")" ∧
    Numeral.Canonical 16 digits ∧ Numeral.readSigned? digits = some raw

/-- The text has the two's complement word in hexadecimal digits between fixed parts. -/
theorem describe_eq (h : WindowHandle) : h.describe =
    "WindowHandle(0x" ++ String.ofList (Numeral.write 16 h.raw.toUInt64.toNat) ++ ")" := by
  have hopen : "WindowHandle(0x" = "WindowHandle(" ++ "0x" := rfl
  rw [describe, describeAs, Numeral.hexAs, Numeral.hex, hopen]
  simp only [String.append_assoc]

theorem isText_describe (h : WindowHandle) : IsText h.describe h.raw.toInt :=
  ⟨_, h.describe_eq, Numeral.canonical_write (by decide) (by decide) _,
    Numeral.readSigned?_write h.raw⟩

/-- **The texts that name windows are those of handles.** -/
theorem isText_iff {text : String} {raw : Int} :
    IsText text raw ↔ ∃ h : WindowHandle, h.raw.toInt = raw ∧ text = h.describe := by
  constructor
  · rintro ⟨digits, rfl, hcanonical, hread⟩
    obtain ⟨x, rfl, rfl⟩ := (Numeral.readSigned?_eq_some_iff hcanonical).mp hread
    exact ⟨⟨x⟩, rfl, (describe_eq ⟨x⟩).symm⟩
  · rintro ⟨h, rfl, rfl⟩
    exact h.isText_describe

/-- A text names one window at most. -/
theorem IsText.unique {text : String} {raw raw' : Int} (h : IsText text raw)
    (h' : IsText text raw') : raw = raw' := by
  obtain ⟨digits, rfl, -, hread⟩ := h
  obtain ⟨digits', htext, -, hread'⟩ := h'
  obtain rfl : digits = digits' := by
    rwa [String.append_left_inj, String.append_right_inj, String.ofList_inj] at htext
  exact Option.some.inj (hread.symm.trans hread')

/-- A handle is known by its signed number. -/
theorem eq_of_toInt_eq {h h' : WindowHandle} (hraw : h.raw.toInt = h'.raw.toInt) : h = h' := by
  obtain ⟨raw⟩ := h
  obtain ⟨raw'⟩ := h'
  exact congrArg mk (Int64.toInt_inj.mp hraw)

/-- **Handles with the same text are the same.** -/
theorem describe_inj {h h' : WindowHandle} : h.describe = h'.describe ↔ h = h' := by
  refine ⟨fun htext => eq_of_toInt_eq ?_, fun hsame => congrArg describe hsame⟩
  have htext' : IsText h.describe h'.raw.toInt := htext ▸ h'.isText_describe
  exact h.isText_describe.unique htext'

/-- Diagnostics tell which window it is. -/
structure ToldByText (h : WindowHandle) : Prop where
  isText : ∀ form, IsText (h.describeAs form) h.raw.toInt
  /-- There is no other way to say it, not even in the other form. -/
  only : ∀ form text, IsText text h.raw.toInt → text = h.describeAs form
  forms : h.describeAs .alternate = h.describeAs .plain
  unshared : ∀ form form' h', h.describeAs form = h'.describeAs form' ↔ h = h'

theorem toldByText (h : WindowHandle) : h.ToldByText where
  isText _ := h.isText_describe
  only _ text htext := by
    obtain ⟨h', hraw, rfl⟩ := isText_iff.mp htext
    exact congrArg describe (eq_of_toInt_eq hraw)
  forms := rfl
  unshared _ _ _ := describe_inj

/-- The null handle, the last positive one, and the first and the last negative one. -/
example : (⟨0⟩ : WindowHandle).describe = "WindowHandle(0x0)" ∧
    (⟨Int64.maxValue⟩ : WindowHandle).describe = "WindowHandle(0x7fffffffffffffff)" ∧
    (⟨Int64.minValue⟩ : WindowHandle).describe = "WindowHandle(0x8000000000000000)" ∧
    (⟨-1⟩ : WindowHandle).describe = "WindowHandle(0xffffffffffffffff)" := by decide

end WindowHandle

/-! ## Entries -/

/-- The text by which a field names a window. -/
def LogField.windowText? : LogField → Option String
  | .window text => some text
  | _ => none

/-- The texts by which an entry names windows. -/
def LogRecord.windowTexts (r : LogRecord) : List String := r.fields.filterMap LogField.windowText?

/-- The window that an event is about. -/
def LogEvent.window? : LogEvent → Option WindowHandle
  | .notCentered w _ => some w
  | _ => none

/-- An entry names the window that its event is about, if it is about one. -/
theorem LogEvent.windowTexts_record (e : LogEvent) :
    e.record.windowTexts = (e.window?.map WindowHandle.describe).toList := by
  cases e <;> rfl

/-- **Events name the same window if they are about the same one.** -/
theorem LogEvent.windowTexts_record_eq_iff {e e' : LogEvent} :
    e.record.windowTexts = e'.record.windowTexts ↔ e.window? = e'.window? := by
  rw [windowTexts_record, windowTexts_record]
  cases e.window? <;> cases e'.window? <;> simp [WindowHandle.describe_inj]

@[simp] theorem windowTexts_loadRecord (source : ProgramFile) (count : UInt32) :
    (loadRecord source count).windowTexts = [] := by
  cases source with
  | error reason => rfl
  | ok path =>
    simp only [loadRecord]
    split_ifs <;> rfl

/-- Where centering fails, the log names the window that was to be centered. -/
theorem mem_windowTexts_centerRecords {d : Desktop} {w : WindowHandle} {text : String} :
    text ∈ (d.centerRecords w).flatMap LogRecord.windowTexts ↔
      text = w.describe ∧ ∃ e, (center w d).1 = .error e := by
  simp only [Desktop.centerRecords]
  cases (center w d).1 with
  | ok => simp
  | error e => simp [notCenteredRecord, LogRecord.windowTexts, LogField.windowText?]

/-! ## Runs -/

namespace Session

/-- The step makes a reporting adapter try to center the window, and it cannot. -/
def FailsToCenter (w : WindowHandle) (s : Session) (step : Step) : Prop :=
  ∃ index d action, step = .adapter index action ∧ s.adapters[index]? = some ⟨.reporting, d⟩ ∧
    action.centers? = some w ∧ ∃ e, (center w s.desktop).1 = .error e

/-- The texts by which the log of a run names windows. -/
def windowTexts (s : Session) (steps : List Step) : List String :=
  ((s.log steps).map LogEvent.record).flatMap LogRecord.windowTexts

/-- What an action leaves in the log names its window if it cannot be centered, and nothing else. -/
theorem mem_windowTexts_expectedRecords {s : Session} {settings : Settings} {loaded : Bool}
    {action : DecoratorAction} {text : String} :
    text ∈ (s.expectedRecords settings loaded action).flatMap LogRecord.windowTexts ↔
      ∃ w, action.centers? = some w ∧ text = w.describe ∧
        ∃ e, (center w s.desktop).1 = .error e := by
  have hload (asked : Prop) [Decidable asked] (source : ProgramFile) (count : UInt32) :
      (if asked then [loadRecord source count] else []).flatMap LogRecord.windowTexts = [] := by
    split <;> simp
  rw [expectedRecords, List.flatMap_append, hload, List.nil_append]
  cases action.centers? with
  | none => simp
  | some w =>
    simp only [Option.map_some, Option.getD_some, mem_windowTexts_centerRecords, Option.some.injEq,
      exists_eq_left']

/-- Only reporting adapters log something. -/
theorem events_step_of_others {s : Session} {step : Step}
    (h : ¬ ∃ index d action, step = .adapter index action ∧
      s.adapters[index]? = some ⟨.reporting, d⟩) : (s.step step).2.events = [] := by
  cases step with
  | adapter index action =>
    cases ha : s.adapters[index]? with
    | none => simp only [step, ha]
    | some a =>
      obtain ⟨kind, d⟩ := a
      cases kind with
      | reporting => exact absurd ⟨index, d, action, rfl, ha⟩ h
      | plain =>
        rw [step_adapter_eq ha]
        cases action <;> rfl
  | newAdapter kind settings => cases settings <;> rfl
  | _ => rfl

/-- **A step names a window in the log if it cannot center it.** -/
theorem describe_mem_windowTexts_step {s : Session} {step : Step} {w : WindowHandle} :
    w.describe ∈ ((s.step step).2.events.map LogEvent.record).flatMap LogRecord.windowTexts ↔
      FailsToCenter w s step := by
  by_cases hreports : ∃ index d action, step = .adapter index action ∧
      s.adapters[index]? = some ⟨.reporting, d⟩
  · obtain ⟨index, d, action, rfl, ha⟩ := hreports
    rw [map_record_events ha, mem_windowTexts_expectedRecords]
    constructor
    · rintro ⟨w', hcenters, htext, hfails⟩
      obtain rfl := WindowHandle.describe_inj.mp htext
      exact ⟨index, d, action, rfl, ha, hcenters, hfails⟩
    · rintro ⟨index', d', action', hstep, -, hcenters, hfails⟩
      obtain ⟨rfl, rfl⟩ := Step.adapter.inj hstep
      exact ⟨w, hcenters, rfl, hfails⟩
  · rw [events_step_of_others hreports]
    refine ⟨fun hmem => absurd hmem List.not_mem_nil, ?_⟩
    rintro ⟨index, d, action, hstep, ha, -⟩
    exact absurd ⟨index, d, action, hstep, ha⟩ hreports

/-- **The log of a run names the windows that the run could not center.** -/
theorem describe_mem_windowTexts_iff {s : Session} {steps : List Step} {w : WindowHandle} :
    w.describe ∈ s.windowTexts steps ↔ ∃ later, s.Since (FailsToCenter w) steps later := by
  induction steps generalizing s with
  | nil =>
    refine ⟨fun hmem => absurd hmem List.not_mem_nil, ?_⟩
    rintro ⟨later, hsince⟩
    exact absurd hsince (not_since_nil s _ later)
  | cons step steps ih =>
    rw [windowTexts, log_cons, List.map_append, List.flatMap_append, List.mem_append,
      describe_mem_windowTexts_step, exists_since_cons]
    exact or_congr_right ih

/-- **A log tells its windows apart**: the text of a handle is told from all others, in both forms,
and where it stands in the log of a run, the run could not center that window. -/
theorem namesWindows :
    (∀ h : WindowHandle, h.ToldByText) ∧
      (∀ e e' : LogEvent, e.record.windowTexts = e'.record.windowTexts ↔ e.window? = e'.window?) ∧
      ∀ (s : Session) (steps : List Step) (w : WindowHandle),
        w.describe ∈ s.windowTexts steps ↔ ∃ later, s.Since (FailsToCenter w) steps later :=
  ⟨WindowHandle.toldByText, fun _ _ => LogEvent.windowTexts_record_eq_iff,
    fun _ _ _ => describe_mem_windowTexts_iff⟩

end Session

end WindowDecor
