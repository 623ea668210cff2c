import Mathlib.Data.List.Forall2
import WindowDecor.Proofs.Session.Account
import WindowDecor.Proofs.Session.Changes

/-!
# The spelling of an icon source makes no difference

Settings that are equal as settings may still name their icon source in different spellings.  Two
sessions that differ in nothing else go on side by side: the file is looked up by its components, so
both find the same icons, and the spelling shows only where it is written down.

* `DesktopAction.Respelled`, `LogEvent.Respelled`, `StepResult.Respelled`, `Step.Respelled` — what may
  differ in what is asked of a desktop, in what is logged, in an answer, and in a step.
* `Desktop.Respelled`, `Decorator.Respelled`, `Session.Respelled` — two states side by side.
* `Desktop.Respelled.performAll`, `Adapter.Respelled.requests`, **`Session.Respelled.step`**,
  `Session.Respelled.run` — they stay so, request by request, step by step and in every run.
* **`Session.interchangeable`** — what that means for whoever looks at the sessions from outside
  (`Session.Interchangeable`).
-/

namespace WindowDecor

open List (Forall₂)

/-! ## What may differ -/

/-- The same action, or a look into the same file. -/
inductive DesktopAction.Respelled : DesktopAction → DesktopAction → Prop
  | same (action : DesktopAction) : Respelled action action
  | extractIcons {p q : FilePath} (h : p.Same q) : Respelled (.extractIcons p) (.extractIcons q)

/-- The same event, or a load from the same file. -/
inductive LogEvent.Respelled : LogEvent → LogEvent → Prop
  | same (e : LogEvent) : Respelled e e
  | iconsLoaded {p q : FilePath} (h : p.Same q) (count : UInt32) :
      Respelled (.iconsLoaded p count) (.iconsLoaded q count)

/-- The same answer, or settings that are the same. -/
inductive StepResult.Respelled : StepResult → StepResult → Prop
  | same (result : StepResult) : Respelled result result
  | settings {a b : Settings} (h : a.Same b) : Respelled (.settings a) (.settings b)

/-- The same step, or one that makes an adapter of the same kind with settings that are the same. -/
inductive Step.Respelled : Step → Step → Prop
  | same (step : Step) : Respelled step step
  | newAdapter (kind : AdapterKind) {a b : Settings} (h : a.Same b) :
      Respelled (.newAdapter kind (.ok a)) (.newAdapter kind (.ok b))

/-- Equal lists are related entry by entry where everything is related to itself. -/
theorem forall₂_of_eq {α : Type} {R : α → α → Prop} (hrefl : ∀ x, R x x) {l l' : List α}
    (h : l = l') : Forall₂ R l l' := by
  subst h
  exact List.forall₂_same.mpr fun x _ => hrefl x

theorem StepResult.Respelled.of_eq {r r' : StepResult} (h : r = r') : r.Respelled r' := h ▸ .same r

theorem Settings.Same.refl (a : Settings) : a.Same a := by
  refine ⟨rfl, rfl, rfl, ?_⟩
  cases a.iconSource with
  | none => trivial
  | some path => exact .refl path

/-! ## Desktops -/

/-- Desktops that differ in the record of looks into files, and there in the spelling alone. -/
inductive Desktop.Respelled (d : Desktop) : Desktop → Prop
  | mk {extractions : List FilePath} (h : Forall₂ FilePath.Same d.extractions extractions) :
      Respelled d { d with extractions }

namespace Desktop

theorem Respelled.refl (d : Desktop) : d.Respelled d :=
  .mk (forall₂_of_eq .refl rfl)

/-- Spellings of one path find the same icons. -/
theorem iconsAt_congr (d : Desktop) {p q : FilePath} (h : p.Same q) : d.iconsAt p = d.iconsAt q := by
  have hsame : (fun r : IconResource => decide (p.Same r.path)) =
      fun r => decide (q.Same r.path) := by
    funext r
    exact decide_eq_decide.mpr ⟨h.symm.trans, h.trans⟩
  simp only [iconsAt, hsame]

variable {d d' : Desktop} {w : WindowHandle}

namespace Respelled

/-- **An action on the one desktop is answered as on the other.** -/
theorem perform (h : d.Respelled d') {r r' : DesktopAction} (hr : r.Respelled r') :
    (d.perform r).1.Respelled (d'.perform r').1 ∧ (d.perform r).2 = (d'.perform r').2 := by
  cases h with | mk hpaths =>
  cases hr with
  | extractIcons hpath =>
    refine ⟨.mk (List.rel_append hpaths (.cons hpath .nil)), ?_⟩
    exact congrArg DesktopResult.icons (d.iconsAt_congr hpath)
  | same r =>
    cases r with
    | extractIcons path => exact ⟨.mk (List.rel_append hpaths (.cons (.refl path) .nil)), rfl⟩
    | _ => exact ⟨.mk hpaths, rfl⟩

theorem performAll (h : d.Respelled d') {requests requests' : List DesktopAction}
    (hrequests : Forall₂ DesktopAction.Respelled requests requests') :
    (d.performAll requests).Respelled (d'.performAll requests') := by
  induction hrequests generalizing d d' with
  | nil => exact h
  | cons hr _ ih => exact ih (h.perform hr).1

theorem iconsAt_eq (h : d.Respelled d') {p q : FilePath} (hpath : p.Same q) :
    d.iconsAt p = d'.iconsAt q := by
  cases h with | mk hpaths =>
  exact d.iconsAt_congr hpath

/-- The records of the files that were looked at agree but for spelling. -/
theorem extractions (h : d.Respelled d') :
    Forall₂ FilePath.Same d.extractions d'.extractions := by
  cases h with | mk hpaths => exact hpaths

/-- Everything but these records is the same. -/
theorem others_eq (h : d.Respelled d') :
    { d with extractions := [] } = { d' with extractions := [] } := by
  cases h with | mk hpaths => rfl

theorem window?_eq (h : d.Respelled d') : d.window? w = d'.window? w := by
  cases h with | mk hpaths => rfl

theorem bounds_eq (h : d.Respelled d') : d.bounds w = d'.bounds w := by
  cases h with | mk hpaths => rfl

theorem fixStyleRequests_eq (h : d.Respelled d') :
    d.fixStyleRequests w = d'.fixStyleRequests w := by
  cases h with | mk hpaths => rfl

theorem center_eq (h : d.Respelled d') :
    (center w d).1 = (center w d').1 ∧ d.centerRequests w = d'.centerRequests w := by
  cases h with | mk hpaths => exact center_congr rfl rfl

theorem centerEvents_eq (h : d.Respelled d') : d.centerEvents w = d'.centerEvents w := by
  simp only [centerEvents, h.center_eq.1]

end Respelled

end Desktop

/-! ## Decorators -/

/-- Decorators that differ in the spelling of the icon source alone. -/
inductive Decorator.Respelled : Decorator → Decorator → Prop
  | mk {a b : Settings} (h : a.Same b) (icons : IconCache) : Respelled ⟨a, icons⟩ ⟨b, icons⟩

namespace Decorator.Respelled

variable {d e : Decorator} {x y : Desktop} {w : WindowHandle}

theorem icons_eq (h : d.Respelled e) : d.icons = e.icons := by
  cases h with | mk hsettings icons => rfl

/-- Both have their icons from the same file, or for the same reason from none. -/
theorem iconSource_cases (h : d.Respelled e) (program : ProgramFile) :
    (∃ reason, d.iconSource program = .error reason ∧ e.iconSource program = .error reason) ∨
      ∃ p q, d.iconSource program = .ok p ∧ e.iconSource program = .ok q ∧ p.Same q := by
  cases h with | @mk a b hsettings icons =>
  -- one that names a file is not the same as one that leaves it to the program
  obtain ⟨-, -, -, hsource⟩ := hsettings
  simp only [Decorator.iconSource]
  cases ha : a.iconSource with
  | none =>
    cases hb : b.iconSource with
    | none =>
      cases program with
      | error reason => exact .inl ⟨reason, rfl, rfl⟩
      | ok path => exact .inr ⟨path, path, rfl, rfl, .refl path⟩
    | some q =>
      rw [ha, hb] at hsource
      exact hsource.elim
  | some p =>
    cases hb : b.iconSource with
    | none =>
      rw [ha, hb] at hsource
      exact hsource.elim
    | some q =>
      rw [ha, hb] at hsource
      exact .inr ⟨p, q, rfl, rfl, hsource⟩

theorem store (h : d.Respelled e) (icons : IconPair) :
    Decorator.Respelled { d with icons := .loaded icons } { e with icons := .loaded icons } := by
  cases h with | mk hsettings cache => exact .mk hsettings _

/-- Decorators still agree when both have loaded. -/
theorem loaded (h : d.Respelled e) (hxy : x.Respelled y) (program : ProgramFile) :
    (d.loaded program x).Respelled (e.loaded program y) := by
  rcases h.iconSource_cases program with ⟨reason, hd, he⟩ | ⟨p, q, hd, he, hpath⟩
  · simp only [Decorator.loaded, hd, he]
    exact h.store .empty
  · simp only [Decorator.loaded, hd, he, hxy.iconsAt_eq hpath]
    exact h.store _

theorem ready (h : d.Respelled e) (hxy : x.Respelled y) (program : ProgramFile) :
    (d.ready program x).Respelled (e.ready program y) := by
  simp only [Decorator.ready, ← h.icons_eq]
  split
  · exact h
  · exact h.loaded hxy program

/-! ### What they ask, answer and log -/

/-- The icons at hand are put on a window by the same requests. -/
theorem iconRequests (h : d.Respelled e) :
    Forall₂ DesktopAction.Respelled (d.iconRequests w) (e.iconRequests w) := by
  refine forall₂_of_eq .same ?_
  rw [Decorator.iconRequests, Decorator.iconRequests, h.icons_eq]

/-- A load looks at one path, under two spellings. -/
theorem loadRequests (h : d.Respelled e) (program : ProgramFile) :
    Forall₂ DesktopAction.Respelled (d.loadRequests program) (e.loadRequests program) := by
  rcases h.iconSource_cases program with ⟨reason, hd, he⟩ | ⟨p, q, hd, he, hpath⟩
  · simp only [Decorator.loadRequests, hd, he]
    exact .nil
  · simp only [Decorator.loadRequests, hd, he]
    exact .cons (.extractIcons hpath) .nil

theorem ownIconRequests (h : d.Respelled e) (hxy : x.Respelled y) (program : ProgramFile) :
    Forall₂ DesktopAction.Respelled (d.ownIconRequests program x w)
      (e.ownIconRequests program y w) := by
  refine List.rel_append ?_ (h.ready hxy program).iconRequests
  rw [← h.icons_eq]
  split
  · exact .nil
  · exact h.loadRequests program

theorem prepareRequests (h : d.Respelled e) (hxy : x.Respelled y) (program : ProgramFile) :
    Forall₂ DesktopAction.Respelled (d.prepareRequests program x w)
      (e.prepareRequests program y w) := by
  -- each part is asked for on what the part before left, so the desktops go along
  have hicons := h.ownIconRequests (w := w) hxy program
  have hdressed := hxy.performAll hicons
  have hframe := forall₂_of_eq DesktopAction.Respelled.same (hdressed.fixStyleRequests_eq (w := w))
  have hframed := hdressed.performAll hframe
  have hcenter := forall₂_of_eq DesktopAction.Respelled.same (hframed.center_eq (w := w)).2
  exact List.rel_append (List.rel_append hicons hframe) hcenter

theorem countAt_eq (h : d.Respelled e) (hxy : x.Respelled y) (program : ProgramFile) :
    x.countAt (d.iconSource program) = y.countAt (e.iconSource program) := by
  rcases h.iconSource_cases program with ⟨reason, hd, he⟩ | ⟨p, q, hd, he, hpath⟩
  · rw [hd, he]
    rfl
  · rw [hd, he]
    exact congrArg ExtractedIcons.count (hxy.iconsAt_eq hpath)

/-- What is logged of a load differs in the spelling of its file alone. -/
theorem loadEvents (h : d.Respelled e) (hxy : x.Respelled y) (program : ProgramFile) :
    Forall₂ LogEvent.Respelled (d.loadEvents program x) (e.loadEvents program y) := by
  rcases h.iconSource_cases program with ⟨reason, hd, he⟩ | ⟨p, q, hd, he, hpath⟩
  · simp only [Decorator.loadEvents, hd, he]
    exact .cons (.same _) .nil
  · simp only [Decorator.loadEvents, hd, he, hxy.iconsAt_eq hpath]
    exact .cons (.iconsLoaded hpath _) .nil

theorem ownIconEvents (h : d.Respelled e) (hxy : x.Respelled y) (program : ProgramFile) :
    Forall₂ LogEvent.Respelled (d.ownIconEvents program x) (e.ownIconEvents program y) := by
  simp only [Decorator.ownIconEvents, ← h.icons_eq]
  split
  · exact .nil
  · exact h.loadEvents hxy program

end Decorator.Respelled

/-! ## Adapters -/

/-- Adapters of one kind, with decorators that differ in the spelling of the icon source alone. -/
inductive Adapter.Respelled : Adapter → Adapter → Prop
  | mk (kind : AdapterKind) {d e : Decorator} (h : d.Respelled e) : Respelled ⟨kind, d⟩ ⟨kind, e⟩

namespace Adapter.Respelled

variable {a b : Adapter} {x y : Desktop}

theorem icons_eq (h : a.Respelled b) : a.decorator.icons = b.decorator.icons := by
  cases h with | mk kind h => exact h.icons_eq

theorem next (h : a.Respelled b) (hxy : x.Respelled y) (program : ProgramFile)
    (action : DecoratorAction) :
    (a.next program x action).Respelled (b.next program y action) := by
  cases h with | mk kind h =>
  cases action with
  | applyIcons w =>
    cases kind with
    | plain => exact .mk _ h
    | reporting => exact .mk _ (h.ready hxy program)
  | prepare w =>
    cases kind with
    | plain => exact .mk _ h
    | reporting => exact .mk _ (h.ready hxy program)
  | loadIconsFrom path =>
    cases kind with
    | plain =>
      simp only [Adapter.next, IconCache.store, hxy.iconsAt_eq (.refl path)]
      exact .mk _ (h.store _)
    | reporting => exact .mk _ h
  | loadOwnIcons =>
    cases kind with
    | plain => exact .mk _ h
    | reporting => exact .mk _ (h.loaded hxy program)
  | _ => exact .mk kind h

/-- **Both ask for the same.** -/
theorem requests (h : a.Respelled b) (hxy : x.Respelled y) (program : ProgramFile)
    (action : DecoratorAction) :
    Forall₂ DesktopAction.Respelled (a.requests program x action) (b.requests program y action) := by
  cases h with | mk kind h =>
  cases action with
  | flash w =>
    cases h with | mk hsettings icons =>
    exact forall₂_of_eq .same (by rw [Adapter.requests, Adapter.requests, hsettings.2.2.1])
  | center w => exact forall₂_of_eq .same hxy.center_eq.2
  | plainCenter w => exact forall₂_of_eq .same hxy.center_eq.2
  | fixStyle w => exact forall₂_of_eq .same hxy.fixStyleRequests_eq
  | plainApplyIcons w => exact h.iconRequests
  | applyIcons w =>
    cases kind with
    | plain => exact h.iconRequests
    | reporting => exact h.ownIconRequests hxy program
  | loadOwnIcons =>
    cases kind with
    | plain => exact .nil
    | reporting => exact h.loadRequests program
  | prepare w =>
    cases kind with
    | plain => exact .nil
    | reporting => exact h.prepareRequests hxy program
  | _ => exact forall₂_of_eq .same rfl

/-- **Both answer the same.** -/
theorem answer (h : a.Respelled b) (hxy : x.Respelled y) (program : ProgramFile)
    (action : DecoratorAction) : a.answer program x action = b.answer program y action := by
  cases h with | @mk kind d e h =>
  cases action with
  | width w =>
    cases h with | mk hsettings icons =>
    simp only [Adapter.answer, hxy.bounds_eq, hsettings.1]
  | height w =>
    cases h with | mk hsettings icons =>
    simp only [Adapter.answer, hxy.bounds_eq, hsettings.2.1]
  | center w => simp only [Adapter.answer, hxy.center_eq.1]
  | plainCenter w => simp only [Adapter.answer, hxy.center_eq.1]
  | loadIconsFrom path => simp only [Adapter.answer, hxy.iconsAt_eq (.refl path)]
  | loadOwnIcons => simp only [Adapter.answer, h.countAt_eq hxy program]
  | _ => rfl

/-- **Both log the same.** -/
theorem events (h : a.Respelled b) (hxy : x.Respelled y) (program : ProgramFile)
    (action : DecoratorAction) :
    Forall₂ LogEvent.Respelled (a.events program x action) (b.events program y action) := by
  cases h with | mk kind h =>
  cases kind with
  | plain => cases action <;> exact .nil
  | reporting =>
    cases action with
    | center w => exact forall₂_of_eq .same hxy.centerEvents_eq
    | applyIcons w => exact h.ownIconEvents hxy program
    | loadOwnIcons => exact h.loadEvents hxy program
    | prepare w =>
      exact List.rel_append (h.ownIconEvents hxy program) (forall₂_of_eq .same hxy.centerEvents_eq)
    | _ => exact .nil

end Adapter.Respelled

/-! ## Sessions -/

section

variable {α : Type} {R : α → α → Prop} {l l' : List α}

/-- Under an index both lists have related entries, or neither has one. -/
theorem forall₂_getElem? (h : Forall₂ R l l') (i : Nat) :
    l[i]? = none ∧ l'[i]? = none ∨ ∃ a b, l[i]? = some a ∧ l'[i]? = some b ∧ R a b := by
  induction h generalizing i with
  | nil => exact .inl ⟨rfl, rfl⟩
  | @cons a b _ _ hab _ ih =>
    cases i with
    | zero => exact .inr ⟨a, b, rfl, rfl, hab⟩
    | succ i => exact ih i

theorem forall₂_set (h : Forall₂ R l l') {a b : α} (hab : R a b) (i : Nat) :
    Forall₂ R (l.set i a) (l'.set i b) := by
  induction h generalizing i with
  | nil => exact .nil
  | cons hhead htail ih =>
    cases i with
    | zero => exact .cons hab htail
    | succ i => exact .cons hhead (ih i)

end

/-- The same answer and the same events, but for spelling. -/
structure Outcome.Respelled (o o' : Outcome) : Prop where
  result : o.result.Respelled o'.result
  events : Forall₂ LogEvent.Respelled o.events o'.events

namespace Session

/-- Sessions that differ in spelling alone. -/
structure Respelled (s t : Session) : Prop where
  program : s.program = t.program
  desktop : s.desktop.Respelled t.desktop
  adapters : Forall₂ Adapter.Respelled s.adapters t.adapters

namespace Respelled

variable {s t : Session}

theorem refl (s : Session) : s.Respelled s := by
  refine ⟨rfl, .refl s.desktop, forall₂_of_eq ?_ rfl⟩
  intro a
  exact .mk a.kind (.mk (.refl a.decorator.settings) a.decorator.icons)

/-- Making adapters, with settings that are the same. -/
theorem newAdapter (h : s.Respelled t) (kind : AdapterKind) {a b : Settings} (hsettings : a.Same b) :
    (s.step (.newAdapter kind (.ok a))).1.Respelled (t.step (.newAdapter kind (.ok b))).1 ∧
      (s.step (.newAdapter kind (.ok a))).2.Respelled (t.step (.newAdapter kind (.ok b))).2 := by
  have hmade : Adapter.Respelled (.new kind a) (.new kind b) := .mk kind (.mk hsettings .notLoaded)
  refine ⟨⟨h.program, h.desktop, List.rel_append h.adapters (.cons hmade .nil)⟩, ?_, .nil⟩
  exact .of_eq (congrArg StepResult.adapterMade h.adapters.length_eq)

/-- Asking an adapter to do something. -/
theorem adapter (h : s.Respelled t) (index : Nat) (action : DecoratorAction) :
    (s.step (.adapter index action)).1.Respelled (t.step (.adapter index action)).1 ∧
      (s.step (.adapter index action)).2.Respelled (t.step (.adapter index action)).2 := by
  rcases forall₂_getElem? h.adapters index with ⟨ha, hb⟩ | ⟨a, b, ha, hb, hab⟩
  · simp only [Session.step, ha, hb]
    exact ⟨h, .same _, .nil⟩
  · rw [step_adapter_eq ha, step_adapter_eq hb, ← h.program]
    have hnext := hab.next h.desktop s.program action
    have hrequests := hab.requests h.desktop s.program action
    refine ⟨⟨rfl, h.desktop.performAll hrequests, forall₂_set h.adapters hnext index⟩, ?_,
      hab.events h.desktop s.program action⟩
    exact .of_eq (congrArg StepResult.action (hab.answer h.desktop s.program action))

/-- Asking for something that an adapter has. -/
theorem ask (h : s.Respelled t) (index : Nat) {answer answer' : Adapter → StepResult}
    (hanswer : ∀ a b, Adapter.Respelled a b → (answer a).Respelled (answer' b)) :
    (s.ask index answer).1.Respelled (t.ask index answer').1 ∧
      (s.ask index answer).2.Respelled (t.ask index answer').2 := by
  refine ⟨h, ?_, .nil⟩
  rcases forall₂_getElem? h.adapters index with ⟨ha, hb⟩ | ⟨a, b, ha, hb, hab⟩
  · simp only [Session.ask, ha, hb]
    exact .same _
  · simp only [Session.ask, ha, hb]
    exact hanswer a b hab

/-- **Two sessions stay side by side**, whatever is done in both. -/
theorem step (h : s.Respelled t) {step step' : Step} (hstep : step.Respelled step') :
    (s.step step).1.Respelled (t.step step').1 ∧ (s.step step).2.Respelled (t.step step').2 := by
  cases hstep with
  | newAdapter kind hsettings => exact h.newAdapter kind hsettings
  | same step =>
    cases step with
    | desktop action =>
      obtain ⟨hdesktop, hresult⟩ := h.desktop.perform (.same action)
      exact ⟨⟨h.program, hdesktop, h.adapters⟩, .of_eq (congrArg StepResult.desktop hresult), .nil⟩
    | newAdapter kind settings =>
      cases settings with
      | error e => exact ⟨h, .same _, .nil⟩
      | ok a => exact h.newAdapter kind (.refl a)
    | adapter index action => exact h.adapter index action
    | settings index =>
      refine h.ask index fun a b hab => ?_
      cases hab with | mk kind hd =>
      cases hd with | mk hsettings icons =>
      exact .settings hsettings
    | icons index =>
      refine h.ask index fun a b hab => ?_
      cases hab with | mk kind hd =>
      exact .of_eq (congrArg StepResult.icons hd.icons_eq)
    | window index w =>
      exact h.ask index fun _ _ _ => .of_eq (congrArg StepResult.window h.desktop.window?_eq)

/-- **Whole runs agree**, step by step and answer by answer. -/
theorem run (h : s.Respelled t) {steps steps' : List Step}
    (hsteps : Forall₂ Step.Respelled steps steps') :
    (s.run steps).1.Respelled (t.run steps').1 ∧
      Forall₂ Outcome.Respelled (s.run steps).2 (t.run steps').2 := by
  induction hsteps generalizing s t with
  | nil => exact ⟨h, .nil⟩
  | cons hstep _ ih =>
    obtain ⟨hnext, houtcome⟩ := h.step hstep
    obtain ⟨hlast, houtcomes⟩ := ih hnext
    exact ⟨hlast, .cons houtcome houtcomes⟩

end Respelled

end Session

/-! ## Seen from outside -/

/-- Two events read the same in the log, unless a file is named in different spellings. -/
structure LogEvent.ReadsSame (e e' : LogEvent) : Prop where
  level : e.level = e'.level
  message : e.message = e'.message
  fields : e.fields = e'.fields ∨ ∃ p q : FilePath, p.Same q ∧
    e.fields = [.source p.text] ∧ e'.fields = [.source q.text]

/-- Such events have the same level and the same message. -/
theorem LogEvent.Respelled.readsSame {e e' : LogEvent} (h : e.Respelled e') : e.ReadsSame e' := by
  cases h with
  | same e => exact ⟨rfl, rfl, .inl rfl⟩
  | @iconsLoaded p q hpath count => exact ⟨rfl, rfl, .inr ⟨p, q, hpath, rfl, rfl⟩⟩

namespace Session

/-- Nothing tells two runs apart but the spelling of the files that they name. -/
structure Interchangeable (s : Session) (steps steps' : List Step) : Prop where
  /-- The answers are equal, and where they are settings they are so as settings. -/
  answers : Forall₂ StepResult.Respelled ((s.run steps).2.map (·.result))
    ((s.run steps').2.map (·.result))
  /-- So are the desktops, with all windows and with all records but one. -/
  desktop : { (s.after steps).desktop with extractions := [] } =
    { (s.after steps').desktop with extractions := [] }
  extractions : Forall₂ FilePath.Same (s.after steps).desktop.extractions
    (s.after steps').desktop.extractions
  /-- So are the icons that adapters have at hand. -/
  icons : (s.after steps).adapters.map (·.decorator.icons) =
    (s.after steps').adapters.map (·.decorator.icons)
  log : Forall₂ LogEvent.ReadsSame (s.log steps) (s.log steps')

/-- **Settings that are the same are interchangeable**, in every adapter and in every session. -/
theorem interchangeable (s : Session) {steps steps' : List Step}
    (hsteps : Forall₂ Step.Respelled steps steps') : s.Interchangeable steps steps' := by
  obtain ⟨hlast, houtcomes⟩ := (Respelled.refl s).run hsteps
  constructor
  case answers => exact List.rel_map (fun _ _ h => h.result) houtcomes
  case desktop => exact hlast.desktop.others_eq
  case extractions => exact hlast.desktop.extractions
  case icons =>
    have hicons : Forall₂ (· = ·) ((s.after steps).adapters.map (·.decorator.icons))
        ((s.after steps').adapters.map (·.decorator.icons)) :=
      List.rel_map (fun _ _ h => h.icons_eq) hlast.adapters
    rwa [List.forall₂_eq_eq_eq] at hicons
  case log =>
    have hevents : Forall₂ LogEvent.Respelled (s.log steps) (s.log steps') :=
      List.rel_flatMap houtcomes fun _ _ h => h.events
    exact hevents.imp fun _ _ h => h.readsSame

/-- A reporting adapter made with either of two spellings, next to a plain one.  Its icons are replaced
under a third spelling, and it loads them again. -/
theorem interchangeable_spellings :
    let first : Settings := { iconSource := some ⟨"icons/app"⟩ }
    let second : Settings := { iconSource := some ⟨"icons//./app/"⟩ }
    let steps (settings : Settings) : List Step :=
      [.newAdapter .reporting (.ok settings), .desktop (.addIcons ⟨"icons/app"⟩ ⟨2, .ofRaw 7 8⟩),
        .newAdapter .plain (.ok .default), .adapter 0 (.prepare ⟨4⟩),
        .desktop (.addIcons ⟨"icons/./app"⟩ ⟨1, .ofRaw 9 0⟩), .adapter 0 .loadOwnIcons, .settings 0]
    first.Same second ∧ Forall₂ Step.Respelled (steps first) (steps second) ∧
      (new (.error "")).Interchangeable (steps first) (steps second) ∧
      ((new (.error "")).after (steps first)).desktop.extractions =
        [⟨"icons/app"⟩, ⟨"icons/app"⟩] ∧
      ((new (.error "")).after (steps second)).desktop.extractions =
        [⟨"icons//./app/"⟩, ⟨"icons//./app/"⟩] := by
  intro first second steps
  have hsame : first.Same second := by decide
  have hsteps : Forall₂ Step.Respelled (steps first) (steps second) :=
    .cons (.newAdapter .reporting hsame) (forall₂_of_eq .same rfl)
  exact ⟨hsame, hsteps, interchangeable (new (.error "")) hsteps, by decide, by decide⟩

end Session

end WindowDecor
