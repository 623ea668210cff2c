import WindowDecor.Proofs.Session.Answers

/-!
# Centering that fails

A reading that fails ends an attempt to center a window before the window is moved.  So it does for
every adapter and in every action of which centering is a part.

* `Session.step_adapter_idle` — an action without requests leaves a session as it is.
* `Decorator.performAll_prepareRequests` — where centering fails, preparing a window still gives it
  icons and a frame.
* **`Session.notCentered_of_fails`** — what follows from one failed attempt (`Session.NotCentered`).
-/

namespace WindowDecor

namespace Desktop

variable {d : Desktop} {w : WindowHandle} {e : CenteringError}

/-- A centering that fails asks for nothing. -/
theorem centerRequests_of_fails (h : (center w d).1 = .error e) : d.centerRequests w = [] := by
  have hcases := d.center_cases w
  generalize center w d = result at hcases h
  cases hcases with
  | noMonitor hm => simp only [centerRequests, hm]
  | noWorkArea hm harea => simp only [centerRequests, hm, harea]
  | noBounds hm harea hbounds => simp only [centerRequests, hm, harea, hbounds]
  | moved => cases h

theorem centerEvents_of_fails (h : (center w d).1 = .error e) :
    d.centerEvents w = [.notCentered w e] := by
  simp only [centerEvents, h]

end Desktop

/-- Where centering fails, preparing a window ends with its icons and its frame. -/
theorem Decorator.performAll_prepareRequests (d : Decorator) (program : ProgramFile)
    {desktop : Desktop} {w : WindowHandle} {e : CenteringError}
    (h : (center w desktop).1 = .error e) :
    desktop.performAll (d.prepareRequests program desktop w) = d.prepared program desktop w := by
  obtain ⟨hmonitors, hplace⟩ := d.prepared_place program desktop w
  have hsame := (Desktop.center_congr hmonitors hplace).2
  have hnone : (d.prepared program desktop w).centerRequests w = [] :=
    hsame.trans (Desktop.centerRequests_of_fails h)
  rw [prepareRequests, Desktop.performAll_append, Desktop.performAll_append]
  exact congrArg (Desktop.performAll _) hnone

namespace Session

/-- Whoever tries to center the window fails for the reason `e`, and does not move it. -/
structure NotCentered (s : Session) (w : WindowHandle) (e : CenteringError) : Prop where
  fails : center w s.desktop = (.error e, s.desktop)
  /-- The plain operation hands the failure back and does nothing else. -/
  plainCenter : ∀ {index a}, s.adapters[index]? = some a →
    s.step (.adapter index (.plainCenter w)) = (s, { result := .action (.centering (.error e)) })
  center_plain : ∀ {index d}, s.adapters[index]? = some ⟨.plain, d⟩ →
    s.step (.adapter index (.center w)) = (s, { result := .action (.centering (.error e)) })
  /-- The reporting one logs it and does nothing else. -/
  center_reporting : ∀ {index d}, s.adapters[index]? = some ⟨.reporting, d⟩ →
    s.step (.adapter index (.center w)) =
      (s, { result := .action .done, events := [.notCentered w e] })
  prepare : ∀ {index d}, s.adapters[index]? = some ⟨.reporting, d⟩ →
    (s.step (.adapter index (.prepare w))).2.events =
        d.ownIconEvents s.program s.desktop ++ [.notCentered w e] ∧
      (s.step (.adapter index (.prepare w))).1.desktop.place? w = s.desktop.place? w

/-- An action without requests, after which the adapter is the same. -/
theorem step_adapter_idle {s : Session} {index : Nat} {a : Adapter}
    (ha : s.adapters[index]? = some a) (action : DecoratorAction)
    (hnext : a.next s.program s.desktop action = a)
    (hrequests : a.requests s.program s.desktop action = []) :
    s.step (.adapter index action) = (s, { result := .action (a.answer s.program s.desktop action)
                                           events := a.events s.program s.desktop action }) := by
  obtain ⟨hindex, rfl⟩ := List.getElem?_eq_some_iff.mp ha
  rw [step_adapter_eq ha, hnext, hrequests, List.set_getElem_self]
  rfl

/-- What a failure comes to, for adapters of either kind. -/
theorem notCentered_of_fails {s : Session} {w : WindowHandle} {e : CenteringError}
    (h : center w s.desktop = (.error e, s.desktop)) : s.NotCentered w e := by
  have hfails : (center w s.desktop).1 = .error e := congrArg Prod.fst h
  have hnone := Desktop.centerRequests_of_fails hfails
  constructor
  case fails => exact h
  case plainCenter =>
    intro index a ha
    rw [step_adapter_idle ha (.plainCenter w) rfl hnone]
    simp only [Adapter.answer, Adapter.events, hfails]
  case center_plain =>
    intro index d hd
    rw [step_adapter_idle hd (.center w) rfl hnone]
    simp only [Adapter.answer, Adapter.events, hfails]
  case center_reporting =>
    intro index d hd
    rw [step_adapter_idle hd (.center w) rfl hnone]
    simp only [Adapter.answer, Adapter.events, Desktop.centerEvents_of_fails hfails]
  case prepare =>
    intro index d hd
    rw [step_adapter_eq hd]
    refine ⟨?_, ?_⟩
    · simp only [Adapter.events, Desktop.centerEvents_of_fails hfails]
    · show (s.desktop.performAll (d.prepareRequests s.program s.desktop w)).place? w = _
      rw [d.performAll_prepareRequests s.program hfails]
      exact (d.prepared_place s.program s.desktop w).2

end Session

end WindowDecor
