import WindowDecor.Proofs.Session.Extractions

/-!
# What one action loads

A reporting adapter loads its icons when it is told to, and when it needs them and has not tried
before.

* `Adapter.loadsFor` — whether an action makes a reporting adapter load.
* **`Adapter.requests_filterMap`** — an action that loads looks for icons once, in the file that they
  come from if that is known, and no other action looks.
* `Adapter.next_of_loads`, `Adapter.next_of_not_loads` — an action that loads leaves what was found,
  and every other action leaves the adapter as it is.
-/

namespace WindowDecor

/-! ## One action -/

/-- Whether an action needs icons. -/
def DecoratorAction.needsIcons : DecoratorAction → Bool
  | .applyIcons _ | .prepare _ | .loadOwnIcons => true
  | _ => false

/-- Centering looks at no file. -/
@[simp] theorem Desktop.centerRequests_filterMap (d : Desktop) (w : WindowHandle) :
    (d.centerRequests w).filterMap DesktopAction.extraction? = [] := by
  simp only [centerRequests]
  split
  · rfl
  · split <;> rfl

namespace Decorator

@[simp] theorem iconRequests_filterMap (d : Decorator) (w : WindowHandle) :
    (d.iconRequests w).filterMap DesktopAction.extraction? = [] := by
  rw [iconRequests, List.filterMap_map]
  exact List.filterMap_eq_nil_iff.mpr fun _ _ => rfl

/-- A load looks into one file, if it knows which. -/
@[simp] theorem loadRequests_filterMap (d : Decorator) (program : ProgramFile) :
    (d.loadRequests program).filterMap DesktopAction.extraction? =
      (d.iconSource program).toOption.toList := by
  simp only [loadRequests]
  cases d.iconSource program <;> rfl

/-- The first time, the adapter looks at its file, if that is known. -/
@[simp]
theorem ownIconRequests_filterMap (d : Decorator) (program : ProgramFile) (desktop : Desktop)
    (w : WindowHandle) :
    (d.ownIconRequests program desktop w).filterMap DesktopAction.extraction? =
      if d.icons.isLoaded then [] else (d.iconSource program).toOption.toList := by
  rw [ownIconRequests, List.filterMap_append, iconRequests_filterMap, List.append_nil]
  cases d.icons.isLoaded with
  | true => rfl
  | false => exact d.loadRequests_filterMap program

@[simp]
theorem prepareRequests_filterMap (d : Decorator) (program : ProgramFile) (desktop : Desktop)
    (w : WindowHandle) :
    (d.prepareRequests program desktop w).filterMap DesktopAction.extraction? =
      if d.icons.isLoaded then [] else (d.iconSource program).toOption.toList := by
  simp only [prepareRequests, List.filterMap_append, ownIconRequests_filterMap,
    Desktop.centerRequests_filterMap, List.append_nil]
  exact List.append_nil _

end Decorator

namespace Adapter

/-- Whether an action makes a reporting adapter load its icons: it says so, or it needs them for the
first time. -/
def loadsFor (a : Adapter) (action : DecoratorAction) : Bool :=
  action = .loadOwnIcons || action.needsIcons && !a.decorator.icons.isLoaded

variable {a : Adapter} {action : DecoratorAction}

/-- An action that loads leaves the adapter loaded. -/
theorem next_of_loads (hkind : a.kind = .reporting) (hloads : a.loadsFor action)
    (program : ProgramFile) (desktop : Desktop) :
    a.next program desktop action = { a with decorator := a.decorator.loaded program desktop } := by
  obtain ⟨kind, d⟩ := a
  obtain rfl : kind = .reporting := hkind
  cases action <;> simp_all [loadsFor, DecoratorAction.needsIcons, next, Decorator.ready]

theorem next_of_not_loads (hkind : a.kind = .reporting) (hloads : ¬ a.loadsFor action)
    (program : ProgramFile) (desktop : Desktop) : a.next program desktop action = a := by
  obtain ⟨kind, d⟩ := a
  obtain rfl : kind = .reporting := hkind
  cases action <;> simp_all [loadsFor, DecoratorAction.needsIcons, next, Decorator.ready]

/-- **A load looks once, into the file that icons come from, and no other action looks.** -/
theorem requests_filterMap (hkind : a.kind = .reporting) (program : ProgramFile)
    (desktop : Desktop) :
    (a.requests program desktop action).filterMap DesktopAction.extraction? =
      if a.loadsFor action then (a.decorator.iconSource program).toOption.toList else [] := by
  obtain ⟨kind, d⟩ := a
  obtain rfl : kind = .reporting := hkind
  cases action with
  | center w => exact desktop.centerRequests_filterMap w
  | plainCenter w => exact desktop.centerRequests_filterMap w
  | plainApplyIcons w => exact d.iconRequests_filterMap w
  | loadOwnIcons => exact d.loadRequests_filterMap program
  | applyIcons w =>
    show (d.ownIconRequests program desktop w).filterMap DesktopAction.extraction? = _
    rw [d.ownIconRequests_filterMap]
    cases hloaded : d.icons.isLoaded <;> simp [loadsFor, DecoratorAction.needsIcons, hloaded]
  | prepare w =>
    show (d.prepareRequests program desktop w).filterMap DesktopAction.extraction? = _
    rw [d.prepareRequests_filterMap]
    cases hloaded : d.icons.isLoaded <;> simp [loadsFor, DecoratorAction.needsIcons, hloaded]
  | _ => rfl

end Adapter

end WindowDecor
