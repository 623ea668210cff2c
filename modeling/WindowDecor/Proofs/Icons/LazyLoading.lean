import WindowDecor.Proofs.Icons.Loading

/-!
# Loading icons lazily

A reporting adapter loads its icons when it is told to, and otherwise once, when they are first
needed.  What it then keeps is what it found, also if that was nothing, and it does not look again by
itself.

* `expectedLoads` — how many loads a run comes to, counted from what was asked of the adapter.
* `Session.LastFound` — what was found in a file by the latest look into it.
* `Session.LazyState` — what is known of the adapter after a run, with one lemma for each kind of
  step that can follow: one that asks nothing of the adapter, one that loads nothing, and one that
  loads.
* **`Session.loadsLazily_after`** — the looks of a run are as many as expected, all into the one file,
  and the icons at hand are those of the latest (`Session.LoadsLazily`).
-/

namespace WindowDecor

/-! ## Counting loads -/

/-- The actions before the first load that is asked for. -/
def beforeAsked (actions : List DecoratorAction) : List DecoratorAction :=
  actions.takeWhile fun action => action ≠ .loadOwnIcons

/-- Once a load was asked for, what comes later is not before it. -/
theorem beforeAsked_append_of_mem {actions : List DecoratorAction}
    (hasked : .loadOwnIcons ∈ actions) (later : List DecoratorAction) :
    beforeAsked (actions ++ later) = beforeAsked actions := by
  induction actions with
  | nil => cases hasked
  | cons first rest ih =>
    by_cases hfirst : first = .loadOwnIcons
    · simp [beforeAsked, hfirst]
    · have hrest : .loadOwnIcons ∈ rest := (List.mem_cons.mp hasked).resolve_left (Ne.symm hfirst)
      simpa [beforeAsked, hfirst] using ih hrest

theorem beforeAsked_append_of_not_mem {actions : List DecoratorAction}
    (hunasked : .loadOwnIcons ∉ actions) (later : List DecoratorAction) :
    beforeAsked (actions ++ later) = actions ++ beforeAsked later := by
  refine List.takeWhile_append_of_pos fun action haction => ?_
  have hne : action ≠ .loadOwnIcons := fun h => hunasked (h ▸ haction)
  simpa using hne

/-- How many loads a run comes to, from what is asked of the adapter: each one that is asked for, and
one more if icons are needed before any of them. -/
def expectedLoads (actions : List DecoratorAction) : Nat :=
  actions.count .loadOwnIcons +
    if (beforeAsked actions).any DecoratorAction.needsIcons then 1 else 0

/-- One action more is one load more if it is asked for, or if icons were never needed before. -/
theorem expectedLoads_snoc (actions : List DecoratorAction) (action : DecoratorAction) :
    expectedLoads (actions ++ [action]) = expectedLoads actions +
      if action = .loadOwnIcons ∨
          action.needsIcons ∧ ¬ actions.any DecoratorAction.needsIcons then 1 else 0 := by
  rw [expectedLoads, expectedLoads, List.count_append, List.count_singleton]
  by_cases hasked : .loadOwnIcons ∈ actions
  · -- after a load that was asked for, only further ones count
    have hneeded : actions.any DecoratorAction.needsIcons :=
      List.any_eq_true.mpr ⟨_, hasked, rfl⟩
    rw [beforeAsked_append_of_mem hasked]
    by_cases haction : action = .loadOwnIcons
    · simp only [haction, beq_self_eq_true, if_true, true_or]
      omega
    · simp [haction, hneeded]
  · -- before that, icons are needed for the first time or not
    have hall : beforeAsked actions = actions := by
      have hnil := beforeAsked_append_of_not_mem hasked []
      rw [List.append_nil] at hnil
      exact hnil.trans (List.append_nil actions)
    rw [beforeAsked_append_of_not_mem hasked, hall, List.any_append]
    by_cases haction : action = .loadOwnIcons
    · simp only [haction, beq_self_eq_true, if_true, true_or]
      simp [beforeAsked]
      omega
    · have hfirst : beforeAsked [action] = [action] := by simp [beforeAsked, haction]
      rw [hfirst]
      cases actions.any DecoratorAction.needsIcons <;> simp [haction]

namespace Session

/-! ## Runs -/

/-- Where icons come from under the given settings: the file that these name, or else that of the
running program, if it is known. -/
def sourceOf (s : Session) (settings : Settings) : ProgramFile :=
  match settings.iconSource with
  | some path => .ok path
  | none => s.program

/-- That is where a decorator with these settings looks for them. -/
theorem iconSource_eq_sourceOf (s : Session) (d : Decorator) :
    d.iconSource s.program = s.sourceOf d.settings := by
  cases hsource : d.settings.iconSource <;> simp only [Decorator.iconSource, sourceOf, hsource]

/-- Where an adapter looks for icons does not depend on what happened. -/
@[simp] theorem sourceOf_after (s : Session) (steps : List Step) (settings : Settings) :
    (s.after steps).sourceOf settings = s.sourceOf settings := by
  simp [sourceOf]

/-- The icons at hand in the adapter with the given index. -/
def iconsOf (s : Session) (index : Nat) : Option IconCache :=
  s.adapters[index]?.map (·.decorator.icons)

/-- `icons` is what was registered for the file `source` when the adapter looked into it for the last
time. -/
def LastFound (s : Session) (index : Nat) (source : FilePath) (steps : List Step)
    (icons : IconPair) : Prop :=
  ∃ earlier action later, steps = earlier ++ .adapter index action :: later ∧
    (s.after earlier).newExtractionsBy index (.adapter index action) = [source] ∧
    (s.after (earlier ++ [.adapter index action])).extractionsBy index later = [] ∧
    icons = ((s.after earlier).desktop.iconsAt source).icons

/-- A look at the file finds what is registered at that moment. -/
theorem LastFound.of_look {s : Session} {index : Nat} {source : FilePath} {steps : List Step}
    {action : DecoratorAction}
    (hlook : (s.after steps).newExtractionsBy index (.adapter index action) = [source]) :
    s.LastFound index source (steps ++ [.adapter index action])
      ((s.after steps).desktop.iconsAt source).icons :=
  ⟨steps, action, [], rfl, hlook, rfl, rfl⟩

/-- A step that does not look leaves what was found last. -/
theorem LastFound.snoc {s : Session} {index : Nat} {source : FilePath} {steps : List Step}
    {icons : IconPair} {step : Step} (h : s.LastFound index source steps icons)
    (hnone : (s.after steps).newExtractionsBy index step = []) :
    s.LastFound index source (steps ++ [step]) icons := by
  obtain ⟨earlier, action, later, rfl, hlook, hsince, hicons⟩ := h
  refine ⟨earlier, action, later ++ [step], by simp, hlook, ?_, hicons⟩
  rw [extractionsBy_snoc, hsince, List.nil_append, ← after_append]
  simpa using hnone

/-- What is known of a reporting adapter after a run that found it new. -/
structure LazyState (s : Session) (index : Nat) (settings : Settings) (steps : List Step)
    (icons : IconCache) : Prop where
  adapter : (s.after steps).adapters[index]? = some ⟨.reporting, settings, icons⟩
  isLoaded_iff : icons.isLoaded ↔ (actionsOn index steps).any DecoratorAction.needsIcons
  extractions : s.extractionsBy index steps =
    (List.replicate (expectedLoads (actionsOn index steps))
      (s.sourceOf settings).toOption.toList).flatten
  lastFound : ∀ source pair, s.sourceOf settings = .ok source → icons = .loaded pair →
    s.LastFound index source steps pair
  empty : ∀ reason pair, s.sourceOf settings = .error reason → icons = .loaded pair →
    pair = .empty

namespace LazyState

variable {s : Session} {index : Nat} {settings : Settings} {steps : List Step} {icons : IconCache}

theorem nil (hnew : s.adapters[index]? = some (.new .reporting settings)) :
    s.LazyState index settings [] .notLoaded where
  adapter := hnew
  isLoaded_iff := by simp [actionsOn]
  extractions := rfl
  lastFound := by simp
  empty := by simp

/-- A step that asks nothing of the adapter. -/
theorem snoc_of_others (h : s.LazyState index settings steps icons) {step : Step}
    (hstep : step.actionOn? index = none) :
    s.LazyState index settings (steps ++ [step]) icons := by
  have hactions : actionsOn index (steps ++ [step]) = actionsOn index steps := by
    rw [actionsOn_snoc, hstep]
    exact List.append_nil _
  have hnone := (s.after steps).newExtractionsBy_of_others hstep
  constructor
  case adapter => rw [after_snoc, adapter_step_of_others h.adapter hstep]
  case isLoaded_iff => rw [hactions, h.isLoaded_iff]
  case extractions => rw [extractionsBy_snoc, hnone, List.append_nil, hactions, h.extractions]
  case lastFound =>
    intro source pair hsource hpair
    exact (h.lastFound source pair hsource hpair).snoc hnone
  case empty => exact h.empty

/-- Whether the adapter loads is told by what was asked of it before. -/
theorem loadsFor_iff (h : s.LazyState index settings steps icons) (action : DecoratorAction) :
    Adapter.loadsFor ⟨.reporting, settings, icons⟩ action ↔
      action = .loadOwnIcons ∨ action.needsIcons ∧
        ¬ (actionsOn index steps).any DecoratorAction.needsIcons := by
  rw [← h.isLoaded_iff]
  simp [Adapter.loadsFor]

/-- An action looks at the adapter's file if it loads, and else at nothing. -/
theorem newExtractionsBy_eq (h : s.LazyState index settings steps icons)
    (action : DecoratorAction) :
    (s.after steps).newExtractionsBy index (.adapter index action) =
      if Adapter.loadsFor ⟨.reporting, settings, icons⟩ action
        then (s.sourceOf settings).toOption.toList else [] := by
  rw [newExtractionsBy_adapter h.adapter, Adapter.requests_filterMap rfl, iconSource_eq_sourceOf,
    sourceOf_after]

theorem actionsOn_snoc_adapter (index : Nat) (steps : List Step) (action : DecoratorAction) :
    actionsOn index (steps ++ [.adapter index action]) = actionsOn index steps ++ [action] := by
  rw [actionsOn_snoc]
  simp

/-- The record grows by as much as one more load is expected. -/
theorem extractions_snoc (h : s.LazyState index settings steps icons) (action : DecoratorAction) :
    s.extractionsBy index (steps ++ [.adapter index action]) =
      (List.replicate (expectedLoads (actionsOn index (steps ++ [.adapter index action])))
        (s.sourceOf settings).toOption.toList).flatten := by
  rw [extractionsBy_snoc, h.extractions, h.newExtractionsBy_eq, actionsOn_snoc_adapter,
    expectedLoads_snoc]
  simp only [h.loadsFor_iff]
  split
  · rw [List.replicate_succ', List.flatten_append, List.flatten_singleton]
  · rw [List.append_nil, Nat.add_zero]

/-- An action that loads nothing. -/
theorem snoc_of_not_loads (h : s.LazyState index settings steps icons) {action : DecoratorAction}
    (hloads : ¬ Adapter.loadsFor ⟨.reporting, settings, icons⟩ action) :
    s.LazyState index settings (steps ++ [.adapter index action]) icons := by
  constructor
  case adapter =>
    rw [after_snoc, adapter_step h.adapter, Adapter.next_of_not_loads rfl hloads]
  case isLoaded_iff =>
    rw [h.loadsFor_iff] at hloads
    rw [actionsOn_snoc_adapter, List.any_append, h.isLoaded_iff]
    simp only [List.any_cons, List.any_nil, Bool.or_false, Bool.or_eq_true]
    tauto
  case extractions => exact h.extractions_snoc action
  case lastFound =>
    intro source pair hsource hpair
    refine (h.lastFound source pair hsource hpair).snoc ?_
    rw [h.newExtractionsBy_eq, if_neg hloads]
  case empty => exact h.empty

/-- Only actions that need icons load. -/
theorem needsIcons_of_loads {action : DecoratorAction}
    (hloads : Adapter.loadsFor ⟨.reporting, settings, icons⟩ action) : action.needsIcons := by
  simp only [Adapter.loadsFor, Bool.or_eq_true, Bool.and_eq_true, decide_eq_true_eq] at hloads
  rcases hloads with rfl | ⟨hneeds, -⟩
  · rfl
  · exact hneeds

theorem isLoaded_iff_snoc {action : DecoratorAction}
    (hloads : Adapter.loadsFor ⟨.reporting, settings, icons⟩ action) (pair : IconPair) :
    (IconCache.loaded pair).isLoaded ↔
      (actionsOn index (steps ++ [.adapter index action])).any DecoratorAction.needsIcons := by
  rw [actionsOn_snoc_adapter, List.any_append]
  simp [needsIcons_of_loads hloads]

/-- An action that loads. -/
theorem snoc_of_loads (h : s.LazyState index settings steps icons) {action : DecoratorAction}
    (hloads : Adapter.loadsFor ⟨.reporting, settings, icons⟩ action) :
    ∃ pair, s.LazyState index settings (steps ++ [.adapter index action]) (.loaded pair) := by
  have hlook := h.newExtractionsBy_eq action
  have hadapter := adapter_step h.adapter action
  rw [Adapter.next_of_loads rfl hloads, ← after_snoc] at hadapter
  have hsame : Decorator.iconSource ⟨settings, icons⟩ (s.after steps).program =
      s.sourceOf settings := by
    rw [iconSource_eq_sourceOf, sourceOf_after]
  rw [if_pos hloads] at hlook
  cases hsource : s.sourceOf settings with
  | error reason =>
    simp only [Decorator.loaded, hsame, hsource] at hadapter
    refine ⟨.empty, hadapter, isLoaded_iff_snoc hloads _, h.extractions_snoc action, ?_, ?_⟩
    · intro source pair hknown
      cases hsource.symm.trans hknown
    · intro _ pair _ hpair
      exact (IconCache.loaded.inj hpair).symm
  | ok source =>
    simp only [Decorator.loaded, hsame, hsource] at hadapter
    rw [hsource] at hlook
    refine ⟨((s.after steps).desktop.iconsAt source).icons, hadapter, isLoaded_iff_snoc hloads _,
      h.extractions_snoc action, ?_, ?_⟩
    · intro _ pair hknown hpair
      obtain rfl := Except.ok.inj (hsource.symm.trans hknown)
      obtain rfl := IconCache.loaded.inj hpair
      exact .of_look hlook
    · intro _ pair hunknown
      cases hsource.symm.trans hunknown

end LazyState

/-- Every run leads to such a state: at its end stands a step of the adapter or not, and it loads or
not. -/
theorem exists_lazyState {s : Session} {index : Nat} {settings : Settings}
    (hnew : s.adapters[index]? = some (.new .reporting settings)) (steps : List Step) :
    ∃ icons, s.LazyState index settings steps icons := by
  induction steps using List.reverseRecOn with
  | nil => exact ⟨_, .nil hnew⟩
  | append_singleton steps step ih =>
    obtain ⟨icons, h⟩ := ih
    cases hstep : step.actionOn? index with
    | none => exact ⟨icons, h.snoc_of_others hstep⟩
    | some action =>
      obtain rfl := Step.actionOn?_eq_some hstep
      by_cases hloads : Adapter.loadsFor ⟨.reporting, settings, icons⟩ action
      · obtain ⟨pair, h⟩ := h.snoc_of_loads hloads
        exact ⟨_, h⟩
      · exact ⟨icons, h.snoc_of_not_loads hloads⟩

/-- A reporting adapter that was new loads its icons lazily. -/
structure LoadsLazily (s : Session) (index : Nat) (settings : Settings) (steps : List Step) :
    Prop where
  /-- It looks for icons as often as expected, always in the one file. -/
  extractions_of_source : ∀ source, s.sourceOf settings = .ok source →
    s.extractionsBy index steps = List.replicate (expectedLoads (actionsOn index steps)) source
  /-- Without a file to look in it never looks. -/
  extractions_of_unknown : ∀ reason, s.sourceOf settings = .error reason →
    s.extractionsBy index steps = []
  /-- It has loaded nothing just as long as no icons were needed. -/
  notLoaded_iff : (s.after steps).iconsOf index = some .notLoaded ↔
    ∀ action ∈ actionsOn index steps, ¬ action.needsIcons
  /-- From then on it keeps what it found last. -/
  loaded_of_source : ∀ source, s.sourceOf settings = .ok source →
    (∃ action ∈ actionsOn index steps, action.needsIcons) →
      ∃ pair, (s.after steps).iconsOf index = some (.loaded pair) ∧
        s.LastFound index source steps pair
  loaded_of_unknown : ∀ reason, s.sourceOf settings = .error reason →
    (∃ action ∈ actionsOn index steps, action.needsIcons) →
      (s.after steps).iconsOf index = some (.loaded .empty)
  /-- What is loaded stays loaded, whatever comes later. -/
  stays_loaded : ∀ later pair, (s.after steps).iconsOf index = some (.loaded pair) →
    ∃ pair', (s.after (steps ++ later)).iconsOf index = some (.loaded pair')

/-- **Icons are loaded lazily**, in every run and whatever else happens on the desktop. -/
theorem loadsLazily_after (s : Session) (index : Nat) (settings : Settings)
    (hnew : s.adapters[index]? = some (.new .reporting settings)) (steps : List Step) :
    s.LoadsLazily index settings steps := by
  obtain ⟨icons, h⟩ := exists_lazyState hnew steps
  have hicons : (s.after steps).iconsOf index = some icons := by
    rw [iconsOf, h.adapter]
    rfl
  have hloaded := h.isLoaded_iff
  rw [List.any_eq_true] at hloaded
  constructor
  case extractions_of_source =>
    intro source hsource
    rw [h.extractions, hsource]
    exact List.flatten_replicate_singleton
  case extractions_of_unknown =>
    intro reason hsource
    rw [h.extractions, hsource]
    exact List.flatten_replicate_nil
  case notLoaded_iff =>
    have hnot : icons = .notLoaded ↔ ¬ icons.isLoaded := by
      cases icons <;> simp
    rw [hicons, Option.some.injEq, hnot, hloaded]
    simp only [not_exists, not_and]
  case loaded_of_source =>
    intro source hsource hneeded
    cases icons with
    | notLoaded => cases hloaded.mpr hneeded
    | loaded pair => exact ⟨pair, hicons, h.lastFound source pair hsource rfl⟩
  case loaded_of_unknown =>
    intro reason hsource hneeded
    cases icons with
    | notLoaded => cases hloaded.mpr hneeded
    | loaded pair => rw [hicons, h.empty reason pair hsource rfl]
  case stays_loaded =>
    intro later pair hpair
    obtain rfl := Option.some.inj (hicons.symm.trans hpair)
    obtain ⟨icons', h'⟩ := exists_lazyState hnew (steps ++ later)
    have hneeded : (actionsOn index (steps ++ later)).any DecoratorAction.needsIcons := by
      rw [actionsOn_append, List.any_append, h.isLoaded_iff.mp rfl, Bool.true_or]
    cases icons' with
    | notLoaded => cases h'.isLoaded_iff.mpr hneeded
    | loaded pair' =>
      refine ⟨pair', ?_⟩
      rw [iconsOf, h'.adapter]
      rfl

/-- A run in which the icons of a file are replaced between the first use and a load that is asked
for: two looks into the file, and the second pair is the one that is kept.  The file is one that the
settings of one adapter name, and the running program's for the other. -/
theorem loadsLazily_reload :
    let program : FilePath := ⟨"launcher"⟩
    let theme : FilePath := ⟨"theme.ico"⟩
    let themed : Settings := .withIconSource .default theme
    let start : Session :=
      ⟨.ok program, .empty, [.new .reporting .default, .new .reporting themed]⟩
    let steps : List Step :=
      [.adapter 0 (.prepare ⟨4⟩), .adapter 1 (.applyIcons ⟨8⟩),
        .desktop (.addIcons program ⟨2, .ofRaw 7 8⟩), .desktop (.addIcons theme ⟨1, .ofRaw 9 0⟩),
        .adapter 0 (.applyIcons ⟨4⟩), .adapter 0 .loadOwnIcons, .adapter 1 .loadOwnIcons,
        .adapter 0 (.prepare ⟨4⟩), .adapter 1 (.prepare ⟨8⟩)]
    (start.adapters[0]? = some (.new .reporting .default) ∧
      start.extractionsBy 0 steps = [program, program] ∧
        (start.after steps).iconsOf 0 = some (.loaded (.ofRaw 7 8))) ∧
      start.adapters[1]? = some (.new .reporting themed) ∧
      start.extractionsBy 1 steps = [theme, theme] ∧
        (start.after steps).iconsOf 1 = some (.loaded (.ofRaw 9 0)) := by
  intro program theme themed start steps
  have hnew : start.adapters[0]? = some (.new .reporting .default) := rfl
  have hthemed : start.adapters[1]? = some (.new .reporting themed) := rfl
  have hlazy := loadsLazily_after start 0 .default hnew steps
  have hlazy' := loadsLazily_after start 1 themed hthemed steps
  exact ⟨⟨hnew, hlazy.extractions_of_source program rfl, by decide⟩,
    hthemed, hlazy'.extractions_of_source theme rfl, by decide⟩

end Session

end WindowDecor
