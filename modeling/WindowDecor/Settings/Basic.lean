import WindowDecor.FilePath

/-!
# Settings

What a decorator can be told: which size to report for a window whose bounds cannot be read, how
often to flash, and which file to take icons from.

* `Settings` — the four values; a fresh `Settings` has the defaults.
* `SettingChange`, `Settings.apply` — changing them one at a time.
* `Settings.Same` — equal settings, with icon sources compared as paths and not as texts.
-/

namespace WindowDecor

/-- What a decorator goes by. -/
structure Settings where
  /-- The width reported for a window whose bounds cannot be read. -/
  fallbackWidth : Int32 := 200
  /-- The height reported for a window whose bounds cannot be read. -/
  fallbackHeight : Int32 := 100
  /-- How often a taskbar entry flashes. -/
  flashCount : UInt32 := 2
  /-- The file to take icons from; without one it is the running program's. -/
  iconSource : Option FilePath := none
  deriving DecidableEq

/-- A change of settings. -/
inductive SettingChange where
  | fallbackSize (width height : Int32)
  | flashCount (count : UInt32)
  | iconSource (path : FilePath)
  deriving DecidableEq

namespace Settings

/-- The settings that hold where nothing is said. -/
def default : Settings := {}

/-- The same settings with another fallback size. -/
def withFallbackSize (s : Settings) (width height : Int32) : Settings :=
  { s with fallbackWidth := width, fallbackHeight := height }

/-- The same settings with another number of flashes. -/
def withFlashCount (s : Settings) (count : UInt32) : Settings := { s with flashCount := count }

/-- The same settings with a file to take icons from. -/
def withIconSource (s : Settings) (path : FilePath) : Settings := { s with iconSource := some path }

/-- The settings after a change. -/
def apply (s : Settings) : SettingChange → Settings
  | .fallbackSize width height => s.withFallbackSize width height
  | .flashCount count => s.withFlashCount count
  | .iconSource path => s.withIconSource path

/-- The settings after a list of changes. -/
def applyAll (s : Settings) (changes : List SettingChange) : Settings := changes.foldl apply s

/-- The settings, and what they are after each of a list of changes. -/
def applyEach (s : Settings) : List SettingChange → List Settings
  | [] => [s]
  | change :: rest => s :: (s.apply change).applyEach rest

/-- Icon sources that are both absent, or both present and the same path. -/
def SameSource : Option FilePath → Option FilePath → Prop
  | none, none => True
  | some p, some q => p.Same q
  | _, _ => False

instance : (a b : Option FilePath) → Decidable (SameSource a b)
  | none, none => inferInstanceAs (Decidable True)
  | some p, some q => inferInstanceAs (Decidable (p.Same q))
  | none, some _ => inferInstanceAs (Decidable False)
  | some _, none => inferInstanceAs (Decidable False)

/-- Settings that differ in nothing but the spelling of the icon source. -/
def Same (a b : Settings) : Prop :=
  a.fallbackWidth = b.fallbackWidth ∧ a.fallbackHeight = b.fallbackHeight ∧
    a.flashCount = b.flashCount ∧ SameSource a.iconSource b.iconSource

instance (a b : Settings) : Decidable (a.Same b) := inferInstanceAs (Decidable (_ ∧ _ ∧ _ ∧ _))

end Settings

end WindowDecor
