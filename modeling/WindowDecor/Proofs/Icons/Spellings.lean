import WindowDecor.Proofs.Icons.Registrations
import WindowDecor.Proofs.Paths.Components
import WindowDecor.Proofs.Session.Answers

/-!
# Icons are registered for paths, not for spellings

The registrations of a run are a map from paths to icons.  A path is written to it and looked up in
it under any of its spellings, and only the record of looks tells those apart.

* `Session.Finds` — what it means for someone to find icons in a file: by asking the desktop or by an
  adapter that loads them.
* `Desktop.OneEach` — there is one entry for each path; `Session.oneEach_step` and
  `Session.oneEach_after`.
* **`Session.keepsRegistrations`** — the registrations of every run (`Session.KeepsRegistrations`),
  with what there is to say of spellings (`FilePath.ComparedByComponents`).
-/

namespace WindowDecor

/-! ## Looking for icons -/

namespace Session

/-- The same session with one look into a file on record. -/
def noting (s : Session) (path : FilePath) : Session :=
  { s with desktop := { s.desktop with extractions := s.desktop.extractions ++ [path] } }

/-- Whoever looks into the file finds these icons, and is on record with the spelling that they
used. -/
structure Finds (s : Session) (path : FilePath) (found : ExtractedIcons) : Prop where
  asked : s.step (.desktop (.extractIcons path)) =
    (s.noting path, { result := .desktop (.icons found) })
  /-- A plain adapter that is given the path. -/
  loaded : ∀ {index d}, s.adapters[index]? = some ⟨.plain, d⟩ →
    s.step (.adapter index (.loadIconsFrom path)) =
      ({ s.noting path with
          adapters := s.adapters.set index ⟨.plain, { d with icons := .loaded found.icons }⟩ },
        { result := .action (.count found.count) })
  /-- A reporting adapter that has the path from its settings, or from the program. -/
  loadedOwn : ∀ {index d}, s.adapters[index]? = some ⟨.reporting, d⟩ →
    d.iconSource s.program = .ok path →
    s.step (.adapter index .loadOwnIcons) =
      ({ s.noting path with
          adapters := s.adapters.set index ⟨.reporting, { d with icons := .loaded found.icons }⟩ },
        { result := .action (.count found.count), events := [.iconsLoaded path found.count] })

/-- Whoever looks into a file finds what is registered for its path. -/
theorem finds (s : Session) (path : FilePath) : s.Finds path (s.desktop.iconsAt path) where
  asked := rfl
  loaded := by
    intro index d hd
    rw [step_adapter_eq hd]
    rfl
  loadedOwn := by
    intro index d hd hsource
    rw [step_adapter_eq hd]
    simp only [Adapter.answer, Adapter.events, Adapter.next, Adapter.requests, Desktop.countAt,
      Decorator.loadEvents, Decorator.loaded, Decorator.loadRequests, hsource]
    rfl

end Session

/-! ## One entry for each path -/

/-- No two registrations are for one path. -/
def Desktop.OneEach (d : Desktop) : Prop := d.resources.Pairwise fun r r' => ¬ r.path.Same r'.path

/-- A registration takes the place of those for the same path. -/
theorem Desktop.OneEach.addIcons {d : Desktop} (h : d.OneEach) (path : FilePath)
    (icons : ExtractedIcons) : (d.addIcons path icons).OneEach := by
  refine List.pairwise_cons.mpr ⟨fun r hr => ?_, List.Pairwise.filter _ h⟩
  exact of_decide_eq_true (List.mem_filter.mp hr).2

namespace Session

theorem oneEach_step {s : Session} (h : s.desktop.OneEach) (step : Step) :
    (s.step step).1.desktop.OneEach := by
  rcases view_step (·.resources) (fun _ _ d hr => d.resources_request hr) s step with
    ⟨action, rfl⟩ | ⟨-, hsame⟩
  · cases action with
    | addIcons path icons => exact h.addIcons path icons
    | _ => exact h
  · rwa [Desktop.OneEach, hsame]

/-- **A run has at most one entry for each path.** -/
theorem oneEach_after (program : ProgramFile) (steps : List Step) :
    ((new program).after steps).desktop.OneEach := by
  induction steps using List.reverseRecOn with
  | nil => exact .nil
  | append_singleton steps step ih =>
    rw [after_snoc]
    exact oneEach_step ih step

end Session

/-! ## What a run registered -/

/-- A path under another spelling has the same registrations. -/
theorem registered_congr {p q : FilePath} (h : p.Same q) (steps : List Step) :
    registered p steps = registered q steps := by
  have hstep : Step.registration? p = Step.registration? q := by
    funext step
    unfold Step.registration?
    split
    · next target found =>
      have hiff : p.Same target ↔ q.Same target := ⟨h.symm.trans, h.trans⟩
      simp only [hiff]
    · rfl
  rw [registered, registered, hstep]

/-- A run registers nothing for a path just when none of its steps does, under any spelling. -/
theorem registration?_eq_none_iff {path : FilePath} {steps : List Step} :
    steps.filterMap (Step.registration? path) = [] ↔
      ∀ target icons, .desktop (.addIcons target icons) ∈ steps → ¬ path.Same target := by
  rw [List.filterMap_eq_nil_iff]
  constructor
  · intro h target icons hmem hsame
    have hnone := h _ hmem
    simp [Step.registration?, hsame] at hnone
  · intro h step hmem
    unfold Step.registration?
    split
    · next target icons => exact if_neg (h target icons hmem)
    · rfl

/-- What was registered for a path, and for no spelling of it since. -/
theorem registered_of_latest {path target : FilePath} {icons : ExtractedIcons}
    {earlier later : List Step} (hsame : path.Same target)
    (hlater : ∀ other found, .desktop (.addIcons other found) ∈ later → ¬ path.Same other) :
    registered path (earlier ++ .desktop (.addIcons target icons) :: later) = icons := by
  have hnone := registration?_eq_none_iff.mpr hlater
  have hthis : Step.registration? path (.desktop (.addIcons target icons)) = some icons :=
    if_pos hsame
  simp [registered, hnone, hthis]

theorem registered_of_never {path : FilePath} {steps : List Step}
    (h : ∀ target icons, .desktop (.addIcons target icons) ∈ steps → ¬ path.Same target) :
    registered path steps = .nothing := by
  rw [registered, registration?_eq_none_iff.mpr h]
  rfl

/-- What is registered for one path is not registered for another. -/
theorem registered_snoc_of_others {path target : FilePath} (h : ¬ path.Same target)
    (icons : ExtractedIcons) (steps : List Step) :
    registered path (steps ++ [.desktop (.addIcons target icons)]) = registered path steps := by
  have hthis : Step.registration? path (.desktop (.addIcons target icons)) = none := if_neg h
  simp [registered, hthis]

/-! ## Paths and registrations -/

/-- When two spellings are spellings of one path. -/
structure FilePath.ComparedByComponents (p q : FilePath) : Prop where
  /-- What counts is whether they begin with a slash, whether they begin with a dot of their own, and
  the parts between slashes that are neither empty nor a dot. -/
  counts : p.Same q ↔
    (p.IsAbsolute ↔ q.IsAbsolute) ∧ (p.LeadsWithDot ↔ q.LeadsWithDot) ∧ p.names = q.names
  /-- What does not count are slashes after slashes, dots between slashes, and both at the end. -/
  respelled : p.Same q ↔ Relation.EqvGen FilePath.Respelled p q
  /-- Never do they differ in their letters or in how often they go up, and one is empty only if the
  other one is. -/
  alike : p.Same q → p.Alike q

theorem FilePath.comparedByComponents (p q : FilePath) : p.ComparedByComponents q :=
  ⟨same_iff, same_iff_respelled, Same.alike⟩

namespace Session

/-- What every run makes sure of about registered icons. -/
structure KeepsRegistrations (s : Session) (steps : List Step) : Prop where
  /-- The icons that are found in a file are those of its latest registration, -/
  latest : ∀ {path target icons earlier later},
    steps = earlier ++ .desktop (.addIcons target icons) :: later → path.Same target →
    (∀ other found, .desktop (.addIcons other found) ∈ later → ¬ path.Same other) →
      (s.after steps).Finds path icons
  /-- or none, if there was no registration. -/
  never : ∀ {path},
    (∀ target icons, .desktop (.addIcons target icons) ∈ steps → ¬ path.Same target) →
      (s.after steps).Finds path ⟨0, ⟨none, none⟩⟩
  /-- No more than one registration of each path is kept. -/
  one_each : (s.after steps).desktop.OneEach
  /-- Slashes after slashes make no difference to what is found, and dots between them neither, -/
  slashes : ∀ a b : String, ∃ found, (s.after steps).Finds ⟨a ++ "/" ++ b⟩ found ∧
    (s.after steps).Finds ⟨a ++ "//" ++ b⟩ found ∧ (s.after steps).Finds ⟨a ++ "/./" ++ b⟩ found
  /-- nor do they at the end. -/
  ends : ∀ a : String, a ≠ "" → ∃ found, (s.after steps).Finds ⟨a⟩ found ∧
    (s.after steps).Finds ⟨a ++ "/"⟩ found ∧ (s.after steps).Finds ⟨a ++ "/."⟩ found
  /-- A registration takes the place of those under other spellings. -/
  replaced : ∀ {path target}, path.Same target → ∀ icons,
    (s.after (steps ++ [.desktop (.addIcons target icons)])).Finds path icons
  /-- Another path's registration makes no difference. -/
  apart : ∀ {path target found}, ¬ path.Same target → (s.after steps).Finds path found → ∀ icons,
    (s.after (steps ++ [.desktop (.addIcons target icons)])).Finds path found

/-- What is found is what was registered. -/
theorem finds_after (program : ProgramFile) {steps : List Step} {path : FilePath}
    {found : ExtractedIcons} (h : registered path steps = found) :
    ((new program).after steps).Finds path found := by
  rw [← h, ← iconsAt_after program]
  exact finds _ path

/-- What is found is one thing. -/
theorem Finds.unique {s : Session} {path : FilePath} {found found' : ExtractedIcons}
    (h : s.Finds path found) (h' : s.Finds path found') : found = found' := by
  have hanswer := congrArg (fun answer => answer.2.result) (h.asked.symm.trans h'.asked)
  injection hanswer with hresult
  injection hresult

/-- **Registrations are kept by path**, and paths are compared by their components. -/
theorem keepsRegistrations (program : ProgramFile) (steps : List Step) :
    (∀ p q : FilePath, p.ComparedByComponents q) ∧ (new program).KeepsRegistrations steps := by
  have hrespelled : ∀ {p q : FilePath}, p.Respelled q →
      ((new program).after steps).Finds q (registered p steps) :=
    fun h => finds_after program (registered_congr h.same.symm steps)
  refine ⟨FilePath.comparedByComponents, ?_⟩
  constructor
  case latest =>
    rintro path target icons earlier later rfl hsame hlater
    exact finds_after program (registered_of_latest hsame hlater)
  case never =>
    intro path hnever
    exact finds_after program (registered_of_never hnever)
  case one_each => exact oneEach_after program steps
  case slashes =>
    intro a b
    exact ⟨registered ⟨a ++ "/" ++ b⟩ steps, finds_after program rfl, hrespelled (.slash a b),
      hrespelled (.dot a b)⟩
  case ends =>
    intro a ha
    exact ⟨registered ⟨a⟩ steps, finds_after program rfl, hrespelled (.lastSlash a ha),
      hrespelled (.lastDot a ha)⟩
  case replaced =>
    intro path target hsame icons
    exact finds_after program (registered_of_latest hsame fun _ _ hmem => nomatch hmem)
  case apart =>
    intro path target found hothers hfound icons
    refine finds_after program ?_
    rw [registered_snoc_of_others hothers icons steps]
    exact (finds_after program rfl).unique hfound

end Session

end WindowDecor
