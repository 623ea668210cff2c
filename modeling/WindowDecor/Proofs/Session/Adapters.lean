import WindowDecor.Proofs.Session.Answers
import WindowDecor.Proofs.Session.Extractions

/-!
# What adapters keep

An adapter is of the kind and has the settings that it was made with, for as long as a session
lasts.  Only its icons change, and only by what is asked of it.

* `Session.adapter_step_cases` — an adapter that is there after a step was made by it, was asked
  something, or was there before as it is now.
* **`Session.configurations_after`** — the kinds and the settings of all adapters, read off the steps
  that made them.
* `Session.adapter_after_of_plain` — a plain adapter stays as it is until it is told to load.
-/

namespace WindowDecor

namespace Adapter

/-- What an adapter is made with. -/
def configuration (a : Adapter) : AdapterKind × Settings := (a.kind, a.decorator.settings)

variable (a : Adapter) (program : ProgramFile) (desktop : Desktop) (action : DecoratorAction)

/-- An adapter keeps its kind and its settings, whatever it is asked. -/
@[simp] theorem configuration_next :
    (a.next program desktop action).configuration = a.configuration := by
  obtain ⟨kind, d⟩ := a
  cases kind with
  | plain => cases action <;> rfl
  | reporting =>
    cases action with
    | applyIcons w => exact congrArg (Prod.mk _) (d.settings_ready program desktop)
    | prepare w => exact congrArg (Prod.mk _) (d.settings_ready program desktop)
    | loadOwnIcons => exact congrArg (Prod.mk _) (d.settings_loaded program desktop)
    | _ => rfl

/-- A plain adapter changes only when it is told to load. -/
theorem next_of_plain {a : Adapter} (hkind : a.kind = .plain) {action : DecoratorAction}
    (haction : ∀ path, action ≠ .loadIconsFrom path) : a.next program desktop action = a := by
  cases action with
  | loadIconsFrom path => exact absurd rfl (haction path)
  | _ => simp [next, hkind]

end Adapter

/-- What the adapter is made with that a step makes. -/
def Step.configuration? : Step → Option (AdapterKind × Settings)
  | .newAdapter kind (.ok given) => some (kind, given)
  | _ => none

namespace Session

variable {s : Session} {index : Nat} {step : Step}

/-- **Where an adapter comes from that is there after a step.** -/
theorem adapter_step_cases {b : Adapter} (hb : (s.step step).1.adapters[index]? = some b) :
    (∃ kind settings, step = .newAdapter kind (.ok settings) ∧ b = .new kind settings ∧
        index = s.adapters.length) ∨
      (∃ a action, step = .adapter index action ∧ s.adapters[index]? = some a ∧
        b = a.next s.program s.desktop action) ∨
      step.actionOn? index = none ∧ s.adapters[index]? = some b := by
  cases ha : s.adapters[index]? with
  | some a =>
    right
    cases hstep : step.actionOn? index with
    | some action =>
      obtain rfl := Step.actionOn?_eq_some hstep
      have hnext := (adapter_step ha action).symm.trans hb
      exact .inl ⟨a, action, rfl, rfl, (Option.some.inj hnext).symm⟩
    | none =>
      have hsame := (adapter_step_of_others ha hstep).symm.trans hb
      exact .inr ⟨rfl, hsame⟩
  | none =>
    -- it was not there before, so it can only have been made
    left
    cases step with
    | newAdapter kind settings =>
      cases settings with
      | error e => cases ha.symm.trans hb
      | ok settings =>
        have hmade : (s.adapters ++ [.new kind settings])[index]? = some b := hb
        have hlength : s.adapters.length ≤ index := List.getElem?_eq_none_iff.mp ha
        rw [List.getElem?_append_right hlength, List.getElem?_singleton] at hmade
        split at hmade
        · next hzero => exact ⟨kind, settings, rfl, (Option.some.inj hmade).symm, by omega⟩
        · cases hmade
    | adapter i action =>
      cases hi : s.adapters[i]? with
      | none =>
        simp only [Session.step, hi] at hb
        cases ha.symm.trans hb
      | some other =>
        rw [step_adapter hi] at hb
        replace hb : (s.adapters.set i _)[index]? = some b := hb
        rw [List.getElem?_set] at hb
        split at hb
        · next heq =>
          subst heq
          cases ha.symm.trans hi
        · cases ha.symm.trans hb
    | _ => cases ha.symm.trans hb

/-! ## Kinds and settings -/

/-- A step can add an adapter at the end, and leaves the kinds and settings of the others. -/
theorem configurations_step (s : Session) (step : Step) :
    (s.step step).1.adapters.map Adapter.configuration =
      s.adapters.map Adapter.configuration ++ step.configuration?.toList := by
  cases step with
  | newAdapter kind settings =>
    cases settings with
    | error e => exact (List.append_nil _).symm
    | ok settings => exact List.map_append
  | adapter index action =>
    refine Eq.trans ?_ (List.append_nil _).symm
    cases ha : s.adapters[index]? with
    | none => simp only [Session.step, ha]
    | some a =>
      rw [step_adapter ha]
      show (s.adapters.set index _).map _ = _
      obtain ⟨hindex, hentry⟩ := List.getElem?_eq_some_iff.mp ha
      have hindex' : index < (s.adapters.map Adapter.configuration).length := by simpa using hindex
      -- its entry in the list of configurations is replaced by itself
      have hkept : (a.next s.program s.desktop action).configuration =
          (s.adapters.map Adapter.configuration)[index] := by
        rw [Adapter.configuration_next, List.getElem_map, hentry]
      rw [List.map_set, hkept, List.set_getElem_self]
  | _ => exact (List.append_nil _).symm

/-- **An adapter keeps what it was made with.** -/
theorem configurations_after (s : Session) (steps : List Step) :
    (s.after steps).adapters.map Adapter.configuration =
      s.adapters.map Adapter.configuration ++ steps.filterMap Step.configuration? := by
  induction steps using List.reverseRecOn with
  | nil => exact (List.append_nil _).symm
  | append_singleton steps step ih =>
    rw [after_snoc, configurations_step, ih, List.filterMap_append, List.append_assoc]
    cases hstep : step.configuration? <;> simp [hstep]

/-- An adapter that is there stays there. -/
theorem adapter_after {a : Adapter} (ha : s.adapters[index]? = some a)
    (steps : List Step) : ∃ b, (s.after steps).adapters[index]? = some b ∧
      b.configuration = a.configuration := by
  have hkept : ((s.after steps).adapters.map Adapter.configuration)[index]? =
      some a.configuration := by
    obtain ⟨hindex, -⟩ := List.getElem?_eq_some_iff.mp ha
    have hlength : index < (s.adapters.map Adapter.configuration).length := by simpa using hindex
    rw [configurations_after, List.getElem?_append_left hlength, List.getElem?_map, ha]
    rfl
  rw [List.getElem?_map, Option.map_eq_some_iff] at hkept
  exact hkept

/-! ## Plain adapters -/

/-- A plain adapter changes only when it is told to load icons. -/
theorem adapter_step_of_plain {a : Adapter} (ha : s.adapters[index]? = some a)
    (hkind : a.kind = .plain) (hstep : ∀ path, step ≠ .adapter index (.loadIconsFrom path)) :
    (s.step step).1.adapters[index]? = some a := by
  cases hasked : step.actionOn? index with
  | none => exact adapter_step_of_others ha hasked
  | some action =>
    obtain rfl := Step.actionOn?_eq_some hasked
    have hnext : a.next s.program s.desktop action = a :=
      Adapter.next_of_plain s.program s.desktop hkind fun path haction => hstep path (haction ▸ rfl)
    rw [adapter_step ha, hnext]

/-- A plain adapter stays as it is as long as it loads nothing. -/
theorem adapter_after_of_plain {a : Adapter} (ha : s.adapters[index]? = some a)
    (hkind : a.kind = .plain) {steps : List Step}
    (hsteps : ∀ path, .adapter index (.loadIconsFrom path) ∉ steps) :
    (s.after steps).adapters[index]? = some a := by
  induction steps generalizing s with
  | nil => exact ha
  | cons step steps ih =>
    rw [after_cons]
    refine ih (adapter_step_of_plain ha hkind fun path hpath => ?_) fun path hpath => ?_
    · exact hsteps path (hpath ▸ List.mem_cons_self)
    · exact hsteps path (List.mem_cons_of_mem _ hpath)

end Session

end WindowDecor
