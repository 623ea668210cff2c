import WindowDecor.Proofs.Icons.Assignments
import WindowDecor.Proofs.Icons.Registrations
import WindowDecor.Proofs.Session.Adapters

/-!
# Plain adapters assign what they loaded last

A plain adapter keeps a copy of the icons that it found when it last looked, and that copy is what
it puts on windows.  What is registered afterwards, or loaded by others, does not reach it.

* `Session.LastLoad` — when an adapter looked for icons last, and where.
* `Session.icons_of_lastLoad`, `Session.lastLoad_or_notLoaded` — after a load it has the icons that
  were found, and before the first one it has none.
* **`Session.assignsOwnLoads_after`** — so that is what it assigns, in every run
  (`Session.AssignsOwnLoads`).
-/

namespace WindowDecor

/-- The null number stands for no icon. -/
theorem IconCache.map_raw_assignedTo (large small : Int64) (w : WindowHandle) :
    ((IconCache.loaded (.ofRaw large small)).assignedTo w).map (·.icon.raw) =
      [large, small].filter (· ≠ 0) := by
  rw [assignedTo_loaded]
  by_cases hlarge : large = 0 <;> by_cases hsmall : small = 0 <;>
    simp [IconPair.ofRaw, IconHandle.ofRaw?, hlarge, hsmall]

namespace Session

variable {s : Session} {index : Nat} {steps : List Step} {path : FilePath} {earlier : List Step}

/-- Right after the steps `earlier` the adapter looked for icons in the file `path`, and it did not
look again. -/
def LastLoad (s : Session) (index : Nat) (steps : List Step) (path : FilePath)
    (earlier : List Step) : Prop :=
  (s.after earlier).adapters[index]?.isSome ∧
    ∃ later, steps = earlier ++ .adapter index (.loadIconsFrom path) :: later ∧
      ∀ path', .adapter index (.loadIconsFrom path') ∉ later

/-- The latest load stays the latest until the adapter is told to load again. -/
theorem LastLoad.snoc (h : s.LastLoad index steps path earlier) {step : Step}
    (hstep : ∀ path', step ≠ .adapter index (.loadIconsFrom path')) :
    s.LastLoad index (steps ++ [step]) path earlier := by
  obtain ⟨hthere, later, rfl, hlater⟩ := h
  refine ⟨hthere, later ++ [step], by simp, ?_⟩
  intro path' hmem
  rcases List.mem_append.mp hmem with hmem | hmem
  · exact hlater path' hmem
  · exact hstep path' (List.mem_singleton.mp hmem).symm

/-! ## The icons at hand -/

/-- **A plain adapter has the icons that it found when it last looked.** -/
theorem icons_of_lastLoad {d : Decorator} (hd : (s.after steps).adapters[index]? = some ⟨.plain, d⟩)
    (h : s.LastLoad index steps path earlier) :
    d.icons = .loaded ((s.after earlier).desktop.iconsAt path).icons := by
  obtain ⟨hthere, later, rfl, hlater⟩ := h
  obtain ⟨a, ha⟩ := Option.isSome_iff_exists.mp hthere
  rw [after_append] at hd
  -- it was a plain adapter when it looked, for kinds do not change
  have hkind : a.kind = .plain := by
    obtain ⟨b, hb, hsame⟩ := adapter_after ha (.adapter index (.loadIconsFrom path) :: later)
    obtain rfl := Option.some.inj (hd.symm.trans hb)
    exact (congrArg Prod.fst hsame).symm
  rw [after_cons] at hd
  have hloaded := adapter_step ha (.loadIconsFrom path)
  have hkept := adapter_after_of_plain hloaded
    ((congrArg Prod.fst (a.configuration_next _ _ _)).trans hkind) hlater
  obtain ⟨kind, b⟩ := a
  obtain rfl : kind = .plain := hkind
  obtain rfl := Adapter.mk.inj (Option.some.inj (hd.symm.trans hkept)) |>.2
  rfl

/-- A plain adapter that never looked has no icons, and no others have. -/
theorem lastLoad_or_notLoaded {program : ProgramFile} {d : Decorator}
    (hd : ((new program).after steps).adapters[index]? = some ⟨.plain, d⟩) :
    (∃ path earlier, (new program).LastLoad index steps path earlier) ∨ d.icons = .notLoaded := by
  -- on the last step: it made the adapter, asked it for something, or left it as it was
  induction steps using List.reverseRecOn generalizing d with
  | nil => cases hd
  | append_singleton steps step ih =>
    rw [after_snoc] at hd
    rcases adapter_step_cases hd with
      ⟨kind, settings, -, hmade, -⟩ | ⟨a, action, rfl, ha, hnext⟩ | ⟨hothers, hsame⟩
    · right
      rw [(Adapter.mk.inj hmade).2]
      rfl
    · by_cases hload : ∃ path, action = .loadIconsFrom path
      · obtain ⟨path, rfl⟩ := hload
        exact .inl ⟨path, steps, by simp [ha], [], rfl, by simp⟩
      · have haction : ∀ path, action ≠ .loadIconsFrom path := not_exists.mp hload
        have hkind : a.kind = .plain :=
          (congrArg Prod.fst (a.configuration_next _ _ _)).symm.trans (congrArg Adapter.kind hnext).symm
        rw [Adapter.next_of_plain _ _ hkind haction] at hnext
        subst hnext
        rcases ih ha with ⟨path, earlier, hlast⟩ | hnone
        · exact .inl ⟨path, earlier, hlast.snoc (by simpa using haction)⟩
        · exact .inr hnone
    · rcases ih hsame with ⟨path, earlier, hlast⟩ | hnone
      · refine .inl ⟨path, earlier, hlast.snoc ?_⟩
        rintro path' rfl
        simp at hothers
      · exact .inr hnone

/-! ## What is assigned -/

/-- What a plain adapter assigns is what it has at hand. -/
theorem newAssignments_of_plain {d : Decorator} (hd : s.adapters[index]? = some ⟨.plain, d⟩)
    {action : DecoratorAction} {w : WindowHandle}
    (hdresses : Adapter.dresses? ⟨.plain, d⟩ action = some w) :
    s.newAssignments (.adapter index action) = d.icons.assignedTo w := by
  have hnext : Adapter.next ⟨.plain, d⟩ s.program s.desktop action = ⟨.plain, d⟩ := by
    refine Adapter.next_of_plain _ _ rfl ?_
    rintro path rfl
    cases hdresses
  rw [newAssignments_adapter hd, hnext, hdresses]
  rfl

/-- What every run makes sure of about the icons that plain adapters assign. -/
structure AssignsOwnLoads (s : Session) (steps : List Step) : Prop where
  /-- An adapter that never looked for icons assigns none. -/
  unloaded : ∀ {index d action w}, (s.after steps).adapters[index]? = some ⟨.plain, d⟩ →
    Adapter.dresses? ⟨.plain, d⟩ action = some w →
    (∀ path earlier, ¬ s.LastLoad index steps path earlier) →
      (s.after (steps ++ [.adapter index action])).desktop.assignments =
        (s.after steps).desktop.assignments
  /-- Any other assigns what was registered for the file when it looked last, the large icon first. -/
  loaded : ∀ {index d action w path earlier},
    (s.after steps).adapters[index]? = some ⟨.plain, d⟩ →
    Adapter.dresses? ⟨.plain, d⟩ action = some w → s.LastLoad index steps path earlier →
      let found := (registered path earlier).icons
      (s.after (steps ++ [.adapter index action])).desktop.assignments =
        (s.after steps).desktop.assignments ++
          ((found.large.map fun icon => ⟨w, .big, icon⟩).toList ++
            (found.small.map fun icon => ⟨w, .small, icon⟩).toList)
  /-- Whatever else is done in the meantime makes no difference to what it assigns. -/
  unaffected : ∀ {index d action w later}, (s.after steps).adapters[index]? = some ⟨.plain, d⟩ →
    Adapter.dresses? ⟨.plain, d⟩ action = some w →
    (∀ path, .adapter index (.loadIconsFrom path) ∉ later) →
      (s.after (steps ++ later)).newAssignments (.adapter index action) =
        (s.after steps).newAssignments (.adapter index action)
  /-- Null numbers that came out of a file are left out. -/
  raws : ∀ {index d action w path earlier large small},
    (s.after steps).adapters[index]? = some ⟨.plain, d⟩ →
    Adapter.dresses? ⟨.plain, d⟩ action = some w → s.LastLoad index steps path earlier →
    (registered path earlier).icons = .ofRaw large small →
      ((s.after steps).newAssignments (.adapter index action)).map (·.icon.raw) =
        [large, small].filter (· ≠ 0)
  /-- No null icon is ever assigned, by whomever. -/
  ne_null : ∀ a ∈ (s.after steps).desktop.assignments, a.icon.raw ≠ 0
  /-- A load tells how many icons are registered for the file, whatever icons those are. -/
  counted : ∀ {index d path}, (s.after steps).adapters[index]? = some ⟨.plain, d⟩ →
    ((s.after steps).step (.adapter index (.loadIconsFrom path))).2.result =
      .action (.count (registered path steps).count)

/-- **Plain adapters assign what they loaded last**, whoever else loads or registers icons. -/
theorem assignsOwnLoads_after (program : ProgramFile) (steps : List Step) :
    (new program).AssignsOwnLoads steps := by
  constructor
  case unloaded =>
    intro index d action w hd hdresses hnever
    have hnone : d.icons = .notLoaded := by
      rcases lastLoad_or_notLoaded hd with ⟨path, earlier, hlast⟩ | hnone
      · exact absurd hlast (hnever path earlier)
      · exact hnone
    rw [after_snoc, assignments_step, newAssignments_of_plain hd hdresses, hnone]
    exact List.append_nil _
  case loaded =>
    intro index d action w path earlier hd hdresses hlast
    have hicons := icons_of_lastLoad hd hlast
    rw [iconsAt_after] at hicons
    rw [after_snoc, assignments_step, newAssignments_of_plain hd hdresses, hicons,
      IconCache.assignedTo_loaded]
  case unaffected =>
    intro index d action w later hd hdresses hlater
    have hkept := adapter_after_of_plain hd rfl hlater
    rw [← after_append] at hkept
    rw [newAssignments_of_plain hkept hdresses, newAssignments_of_plain hd hdresses]
  case raws =>
    intro index d action w path earlier large small hd hdresses hlast hraws
    have hicons := icons_of_lastLoad hd hlast
    rw [iconsAt_after, hraws] at hicons
    rw [newAssignments_of_plain hd hdresses, hicons, IconCache.map_raw_assignedTo]
  case ne_null => exact fun a _ => a.icon.ne_null
  case counted =>
    intro index d path hd
    rw [step_adapter_eq hd]
    simp only [Adapter.answer, iconsAt_after]

/-- Two adapters and one file: the icons that the first one loads are replaced before the second one
loads, under another spelling, and the count is not that of the icons. -/
example :
    let first : IconPair := .ofRaw 7 0
    let s := (new (.error "")).after
      [.newAdapter .plain (.ok .default), .newAdapter .plain (.ok .default),
        .desktop (.addIcons ⟨"icons/app"⟩ ⟨5, first⟩), .adapter 0 (.loadIconsFrom ⟨"icons/app"⟩),
        .desktop (.addIcons ⟨"icons//app/"⟩ ⟨2, .ofRaw 8 9⟩),
        .adapter 1 (.loadIconsFrom ⟨"icons/./app"⟩), .adapter 0 (.applyIcons ⟨4⟩),
        .adapter 1 (.applyIcons ⟨4⟩)]
    s.desktop.assignments.map (·.icon.raw) = [7, 8, 9] := by decide

end Session

end WindowDecor
