import WindowDecor.Proofs.Session.Changes
import WindowDecor.Proofs.Session.History

/-!
# Which icons a file has

A file has the icons that were registered for it last, and it does not matter under which spelling of
its path.

* `Desktop.iconsAt_addIcons` — a registration counts for every spelling of its path, and for no
  other path.
* `registered` — what a run registered last for a path, read off its steps.
* **`Session.iconsAt_after`** — that is what is found there after the run.
-/

namespace WindowDecor

/-- A registration counts for all spellings of its path and for no other path. -/
theorem Desktop.iconsAt_addIcons (d : Desktop) (path : FilePath) (icons : ExtractedIcons)
    (asked : FilePath) : (d.addIcons path icons).iconsAt asked =
      if asked.Same path then icons else d.iconsAt asked := by
  simp only [iconsAt, addIcons, List.find?_cons]
  by_cases h : asked.Same path
  · simp [h]
  · -- what the registration replaces is not what is asked for
    have hothers : (fun r : IconResource => decide ((decide ¬ path.Same r.path) = true ∧
        decide (asked.Same r.path) = true)) = fun r => decide (asked.Same r.path) := by
      funext r
      by_cases hr : asked.Same r.path
      · have hpath : ¬ path.Same r.path := fun hpath => h (hr.trans hpath.symm)
        simp [hr, hpath]
      · simp [hr]
    simp only [h, decide_false, List.find?_filter, hothers, if_false]

/-- The icons that a step registers for a path. -/
def Step.registration? (path : FilePath) : Step → Option ExtractedIcons
  | .desktop (.addIcons target found) => if path.Same target then some found else none
  | _ => none

/-- What a run registers last for a path, under whatever spelling; without a registration there are no
icons. -/
def registered (path : FilePath) (steps : List Step) : ExtractedIcons :=
  (steps.filterMap (Step.registration? path)).getLast?.getD .nothing

namespace Session

/-- A step changes what is found under a path if it registers the path. -/
theorem iconsAt_step (s : Session) (step : Step) (path : FilePath) :
    (s.step step).1.desktop.iconsAt path =
      (step.registration? path).getD (s.desktop.iconsAt path) := by
  have hview : ∀ target (r : DesktopAction) (d : Desktop), r.isRequestFor target →
      (d.perform r).1.iconsAt path = d.iconsAt path := by
    intro target r d hr
    simp only [Desktop.iconsAt, Desktop.resources_request d hr]
  rcases view_step (·.iconsAt path) hview s step with ⟨action, rfl⟩ | ⟨hother, hsame⟩
  · cases action with
    | addIcons target icons =>
      have hadded := s.desktop.iconsAt_addIcons target icons path
      simp only [Step.registration?]
      split
      · next h => rwa [if_pos h] at hadded
      · next h => rwa [if_neg h] at hadded
    | _ => rfl
  · rw [hsame]
    cases step with
    | desktop action => exact absurd rfl (hother action)
    | _ => rfl

/-- **A file has the icons that were registered for it last.** -/
theorem iconsAt_after (program : ProgramFile) (steps : List Step) (path : FilePath) :
    ((new program).after steps).desktop.iconsAt path = registered path steps := by
  induction steps using List.reverseRecOn with
  | nil => rfl
  | append_singleton steps step ih =>
    rw [after_snoc, iconsAt_step, ih, registered, registered, List.filterMap_append]
    cases hstep : step.registration? path <;> simp [hstep]

end Session

end WindowDecor
