import WindowDecor.Proofs.Centering.Desktop
import WindowDecor.Proofs.Session.History

/-!
# Sizes at the ends of the axes

A rectangle is kept as four edges, and its size is read off them again.  Both directions saturate:
an edge that would leave the axis is cut off, and a size that is no coordinate becomes the nearest
one.  Here is what is left of a size, for every origin and every order of the edges.

* `Interval.ReachesToward`, `Rect.ReachesToward` — what is cut off starts where it should, and
  reaches as far toward its far edge as there are coordinates.
* **`Interval.ofStart_length_eq_iff`** — an interval is given back by its start and its length just
  when that length did not saturate.
* `Desktop.resize_resize` — a size does not depend on the one before, for it is the origin alone that
  is read.
* `Session.after_resizes` — so a run of sizes leaves no trace when another one follows.
* **`Session.resizesToLast`** — all of it, for rectangles and for windows
  (`Session.LastSizeCounts`).
-/

namespace WindowDecor

/-! ## One axis -/

namespace Interval

/-- `i` starts at `start` and reaches as far toward the length `length` as there are coordinates. -/
structure ReachesToward (i : Interval) (start length : Int32) : Prop where
  near_eq : i.near = start
  /-- The length is the one that was asked for just when that one ends at a coordinate. -/
  length_eq_iff : i.length = length ↔ IsCoordinate (start.toInt + length.toInt)
  toInt_length : i.length.toInt = clampInt (start.toInt + length.toInt) - start.toInt
  /-- In any case it is between zero and that one, and tells where the far edge is. -/
  between : BetweenZeroAnd i.length.toInt length.toInt
  far_eq : i.far.toInt = start.toInt + i.length.toInt
  /-- Nothing else between zero and that one that ends at a coordinate is longer. -/
  longest : ∀ n : Int, BetweenZeroAnd n length.toInt → IsCoordinate (start.toInt + n) →
    n.natAbs ≤ i.length.toInt.natAbs

/-- An interval reaches toward the length that it is given. -/
theorem reachesToward_ofStart (start length : Int32) :
    (ofStart start length).ReachesToward start length where
  near_eq := rfl
  length_eq_iff := length_ofStart_eq_iff start length
  toInt_length := toInt_length_ofStart start length
  between := length_ofStart_between start length
  far_eq := by
    rw [toInt_far_ofStart, toInt_length_ofStart]
    omega
  longest := by
    intro n hbetween hend
    have hs := toInt_mem_range start
    rw [toInt_length_ofStart]
    unfold BetweenZeroAnd at hbetween
    unfold IsCoordinate at hend
    unfold clampInt
    omega

/-- **A length that did not saturate gives the interval back**, and no other does. -/
theorem ofStart_length_eq_iff (i : Interval) :
    ofStart i.near i.length = i ↔ IsCoordinate (i.far.toInt - i.near.toInt) := by
  have hn := toInt_mem_range i.near
  have hf := toInt_mem_range i.far
  have hfar : ofStart i.near i.length = i ↔ (ofStart i.near i.length).far = i.far := by
    obtain ⟨near, far⟩ := i
    simp [ofStart]
  rw [hfar, ← Int32.toInt_inj, toInt_far_ofStart, toInt_length]
  unfold IsCoordinate clampInt
  omega

end Interval

/-! ## Both axes -/

namespace Rect

/-- On both axes, `r` reaches as far toward its size as there are coordinates. -/
structure ReachesToward (r : Rect) (origin : Point) (width height : Int32) : Prop where
  horizontal : r.horizontal.ReachesToward origin.x width
  vertical : r.vertical.ReachesToward origin.y height

/-- **A rectangle can be put together again from origin and size** just when neither length
saturates. -/
theorem ofOriginSize_size_eq_iff (r : Rect) :
    ofOriginSize r.origin r.width r.height = r ↔
      IsCoordinate (r.right.toInt - r.left.toInt) ∧
        IsCoordinate (r.bottom.toInt - r.top.toInt) := by
  have hx := r.horizontal.ofStart_length_eq_iff
  have hy := r.vertical.ofStart_length_eq_iff
  obtain ⟨horizontal, vertical⟩ := r
  rw [ofOriginSize, Rect.mk.injEq]
  exact and_congr hx hy

@[simp] theorem resize_resize (r : Rect) (width height width' height' : Int32) :
    (r.resize width height).resize width' height' = r.resize width' height' := rfl

end Rect

/-! ## Windows -/

/-- **Of two sizes that a window is given the last one counts**, also where the first one was cut
off. -/
@[simp]
theorem Desktop.resize_resize (d : Desktop) (w : WindowHandle) (width height width' height' : Int32) :
    (d.resize w width height).resize w width' height' = d.resize w width' height' := by
  rw [resize, resize, d.changeWindow_changeWindow w (f := (·.resize width height)) fun _ => rfl]
  rfl

/-- A step that asks an adapter to give the window a size. -/
def Step.Resizes (w : WindowHandle) : Step → Prop
  | .adapter _ (.resize v _ _) => v = w
  | _ => False

namespace Session

variable {s : Session} {index : Nat} {a : Adapter}

/-- The session with another size for one window. -/
def resized (s : Session) (w : WindowHandle) (width height : Int32) : Session :=
  { s with desktop := s.desktop.resize w width height }

theorem step_resize (ha : s.adapters[index]? = some a) (w : WindowHandle) (width height : Int32) :
    (s.step (.adapter index (.resize w width height))).1 = s.resized w width height := by
  obtain ⟨hindex, rfl⟩ := List.getElem?_eq_some_iff.mp ha
  rw [step_adapter ha]
  simp only [Adapter.next, List.set_getElem_self]
  rfl

/-- **Giving a window sizes leaves no trace** when it is given another one. -/
theorem after_resizes {w : WindowHandle} {steps : List Step}
    (hsteps : ∀ step ∈ steps, step.Resizes w) (width height : Int32) :
    (s.after steps).resized w width height = s.resized w width height := by
  induction steps generalizing s with
  | nil => rfl
  | cons step rest ih =>
    have hrest := ih (s := (s.step step).1) fun step hstep =>
      hsteps step (List.mem_cons_of_mem _ hstep)
    have hstep := hsteps step List.mem_cons_self
    rw [after_cons, hrest]
    cases step with
    | adapter index action =>
      cases action with
      | resize v width' height' =>
        obtain rfl : v = w := hstep
        cases ha : s.adapters[index]? with
        | none => simp only [Session.step, ha]
        | some a =>
          rw [step_resize ha]
          simp [resized]
      | _ => cases hstep
    | _ => cases hstep

/-- What becomes of a window when an adapter is asked to give it a size. -/
structure LastSizeCounts (s : Session) (index : Nat) (w : WindowHandle) : Prop where
  /-- The window stays where it is, and reaches as far toward the size as there are coordinates. -/
  resized : ∀ {window}, s.desktop.window? w = some window → ∀ width height, ∃ resized,
    (s.after [.adapter index (.resize w width height)]).desktop.window? w =
        some { window with bounds := resized } ∧
      resized.left = window.bounds.left ∧ resized.top = window.bounds.top ∧
        resized.ReachesToward window.bounds.origin width height
  /-- Sizes that it was given before make no difference, whichever adapters were asked. -/
  last : ∀ {steps}, (∀ step ∈ steps, step.Resizes w) → ∀ width height,
    s.after (steps ++ [.adapter index (.resize w width height)]) =
      s.after [.adapter index (.resize w width height)]
  /-- Nor does it when it is given the same size again. -/
  again : ∀ width height, s.after (.replicate 2 (.adapter index (.resize w width height))) =
    s.after [.adapter index (.resize w width height)]

/-- **Sizes are cut off, and the last one counts**: for every origin and size, for every rectangle,
and for every window of every session. -/
theorem resizesToLast (ha : s.adapters[index]? = some a) (w : WindowHandle) :
    (∀ origin width height,
      (Rect.ofOriginSize origin width height).ReachesToward origin width height) ∧
    (∀ r : Rect, .ofOriginSize r.origin r.width r.height = r ↔
      IsCoordinate (r.right.toInt - r.left.toInt) ∧
        IsCoordinate (r.bottom.toInt - r.top.toInt)) ∧
    s.LastSizeCounts index w := by
  have hreaches : ∀ origin width height,
      (Rect.ofOriginSize origin width height).ReachesToward origin width height :=
    fun _ _ _ => ⟨Interval.reachesToward_ofStart _ _, Interval.reachesToward_ofStart _ _⟩
  have hlast : ∀ {steps : List Step}, (∀ step ∈ steps, step.Resizes w) → ∀ width height,
      s.after (steps ++ [.adapter index (.resize w width height)]) =
        s.after [.adapter index (.resize w width height)] := by
    intro steps hsteps width height
    have hsame := after_resizes (s := s) hsteps width height
    have ha' : (s.after steps).adapters[index]? = some a := by
      have hadapters := congrArg Session.adapters hsame
      simp only [resized] at hadapters
      rw [hadapters, ha]
    rw [after_snoc, step_resize ha', hsame, after_cons, after_nil, step_resize ha]
  refine ⟨hreaches, Rect.ofOriginSize_size_eq_iff, ?_⟩
  constructor
  case resized =>
    intro window hwindow width height
    refine ⟨window.bounds.resize width height, ?_, rfl, rfl, hreaches _ width height⟩
    have hresized := s.desktop.window?_resize w w width height
    rw [if_pos rfl, hwindow, Option.map_some] at hresized
    rw [after_cons, after_nil, step_resize ha]
    exact hresized
  case last => exact hlast
  case again =>
    intro width height
    have honce : ∀ step ∈ [Step.adapter index (.resize w width height)], step.Resizes w :=
      List.forall_mem_singleton.mpr rfl
    exact hlast honce width height

/-- A window that starts at the last coordinate has no room for a width: of the largest nothing is
left, of the smallest everything, and a width that follows is not the worse for it. -/
theorem resizesToLast_lastCoordinate :
    let window : Window := .fresh ⟨4⟩ ⟨⟨0x7FFFFFFF, 0x7FFFFFFF⟩, ⟨0, 300⟩⟩ .overlapped
    let s : Session :=
      { program := .error ""
        desktop := { Desktop.empty with windows := [window] }
        adapters := [.new .plain .default] }
    s.adapters[0]? = some (.new .plain .default) ∧
      (s.after [.adapter 0 (.resize ⟨4⟩ 0x7FFFFFFF 5)]).desktop.bounds ⟨4⟩ =
        .ok ⟨⟨0x7FFFFFFF, 0x7FFFFFFF⟩, ⟨0, 5⟩⟩ ∧
      (s.after [.adapter 0 (.resize ⟨4⟩ (-0x80000000) 5)]).desktop.bounds ⟨4⟩ =
        .ok ⟨⟨0x7FFFFFFF, -1⟩, ⟨0, 5⟩⟩ ∧
      s.after ([.adapter 0 (.resize ⟨4⟩ 0x7FFFFFFF 5)] ++ [.adapter 0 (.resize ⟨4⟩ (-9) 7)]) =
        s.after [.adapter 0 (.resize ⟨4⟩ (-9) 7)] := by
  intro window s
  have hadapter : s.adapters[0]? = some (.new .plain .default) := rfl
  obtain ⟨-, -, hcounts⟩ := resizesToLast hadapter ⟨4⟩
  refine ⟨hadapter, by decide, by decide, hcounts.last ?_ (-9) 7⟩
  exact List.forall_mem_singleton.mpr rfl

end Session

end WindowDecor
