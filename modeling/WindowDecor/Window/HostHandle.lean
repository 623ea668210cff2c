import WindowDecor.Window.Handle

/-!
# Handles from a host

The program that owns a window hands out its handle together with the windowing system it belongs
to.  Only Win32 handles name windows that can be decorated here; every other kind is refused with a
description of what was given.

* `HostHandle` — one constructor per windowing system, with the fields that identify a window there.
* `HostHandle.describe` — the handle as it appears in the refusal.
* `WindowHandle.ofHost` — the window handle in a host's answer, or why there is none.
-/

namespace WindowDecor

/-- A window's handle as a host gives it.  Addresses are 64-bit words; an absent identifier is told
apart from a present one. -/
inductive HostHandle where
  | win32 (hwnd : Int64)
  | winRt (coreWindow : UInt64)
  | xlib (window visualId : UInt64)
  | xcb (window : UInt32) (visualId : Option UInt32)
  | wayland (surface : UInt64)
  | drm (plane : UInt32)
  | gbm (surface : UInt64)
  | appKit (view : UInt64)
  | uiKit (view : UInt64) (controller : Option UInt64)
  | orbital (window : UInt64)
  | ohosNdk (window : UInt64)
  | web (id : UInt32)
  | androidNdk (window : UInt64)
  | haiku (window : UInt64) (directWindow : Option UInt64)
  deriving DecidableEq

namespace HostHandle

/-- An address in hexadecimal. -/
def address (a : UInt64) : String := Numeral.hex a.toNat

/-- A field whose value may be absent. -/
def optionalField (name : String) : Option String → String
  | none => name ++ ": None"
  | some value => name ++ ": Some(" ++ value ++ ")"

/-- A field and its value. -/
def field (name value : String) : String := name ++ ": " ++ value

/-- A handle of the windowing system `system`, with its fields in order. -/
def record (system : String) (fields : List String) : String :=
  system ++ "(" ++ system ++ "WindowHandle \x7b " ++ ", ".intercalate fields ++ " \x7d)"

/-- The handle's text in a refusal: the windowing system and each field, addresses in hexadecimal
and other identifiers in decimal. -/
def describe : HostHandle → String
  | .win32 hwnd => record "Win32" [field "hwnd" (Numeral.writeInt hwnd.toInt)]
  | .winRt coreWindow => record "WinRt" [field "core_window" (address coreWindow)]
  | .xlib window visualId =>
      record "Xlib" [field "window" (Numeral.decimal window.toNat),
        field "visual_id" (Numeral.decimal visualId.toNat)]
  | .xcb window visualId =>
      record "Xcb" [field "window" (Numeral.decimal window.toNat),
        optionalField "visual_id" (visualId.map (Numeral.decimal ·.toNat))]
  | .wayland surface => record "Wayland" [field "surface" (address surface)]
  | .drm plane => record "Drm" [field "plane" (Numeral.decimal plane.toNat)]
  | .gbm surface => record "Gbm" [field "gbm_surface" (address surface)]
  | .appKit view => record "AppKit" [field "ns_view" (address view)]
  | .uiKit view controller =>
      record "UiKit" [field "ui_view" (address view),
        optionalField "ui_view_controller" (controller.map address)]
  | .orbital window => record "Orbital" [field "window" (address window)]
  | .ohosNdk window => record "OhosNdk" [field "native_window" (address window)]
  | .web id => record "Web" [field "id" (Numeral.decimal id.toNat)]
  | .androidNdk window => record "AndroidNdk" [field "a_native_window" (address window)]
  | .haiku window directWindow =>
      record "Haiku" [field "b_window" (address window),
        optionalField "b_direct_window" (directWindow.map address)]

end HostHandle

/-- Why a host gives no handle at all. -/
inductive HostFailure where
  | notRepresentable
  | notAvailable
  deriving DecidableEq

namespace HostFailure

/-- What the failure says. -/
def message : HostFailure → String
  | .notRepresentable => "the underlying handle cannot be represented using the types in this crate"
  | .notAvailable => "the underlying handle is not available"

end HostFailure

/-- Why a window has no handle that could be used here. -/
inductive HandleError where
  /-- The host gives none, for the reason told. -/
  | unavailable (reason : String)
  /-- The host gives one of another windowing system. -/
  | unsupportedPlatform (handle : String)
  deriving DecidableEq

namespace HandleError

/-- What the error says. -/
def message : HandleError → String
  | .unavailable reason => "window handle unavailable: " ++ reason
  | .unsupportedPlatform handle => "expected Win32 window handle, got " ++ handle

end HandleError

/-- The window handle in a host's answer. -/
def WindowHandle.ofHost : Except HostFailure HostHandle → Except HandleError WindowHandle
  | .error failure => .error (.unavailable failure.message)
  | .ok (.win32 hwnd) => .ok ⟨hwnd⟩
  | .ok other => .error (.unsupportedPlatform other.describe)

end WindowDecor
