import WindowDecor.Settings.Basic
import WindowDecor.Text.Quoted
import WindowDecor.Text.ShortestDecimal
import WindowDecor.Toml.Table

/-!
# Settings from a table

A table gives settings if it holds nothing but known keys with fitting values.  Keys that are
missing take their defaults.

* `SettingKey` — the four keys.
* `Settings.set?` — **which values fit which key**: integers of the right size for numbers, and
  texts for the icon source.
* `Settings.ofEntries` — the settings that a table gives, or the first key that does not fit.
* `Misfit.reason` — what is told to users about such a key.
-/

namespace WindowDecor

/-- A key that a table of settings may have. -/
inductive SettingKey where
  | fallbackWidth
  | fallbackHeight
  | flashCount
  | iconSource
  deriving DecidableEq

namespace SettingKey

/-- All keys, in the order in which they are listed to users. -/
def all : List SettingKey := [.fallbackWidth, .fallbackHeight, .flashCount, .iconSource]

/-- The key as it is written. -/
def name : SettingKey → String
  | .fallbackWidth => "fallback_width"
  | .fallbackHeight => "fallback_height"
  | .flashCount => "flash_count"
  | .iconSource => "icon_source"

/-- The key that is written like this. -/
def ofName? (name : String) : Option SettingKey := all.find? (·.name = name)

/-- What the key's values are called. -/
def expected : SettingKey → String
  | .fallbackWidth => "i32"
  | .fallbackHeight => "i32"
  | .flashCount => "u32"
  | .iconSource => "path string"

end SettingKey

/-- A key that does not fit. -/
inductive Misfit where
  /-- There is no such setting, whatever its value. -/
  | unknownKey (key : String)
  /-- The setting cannot have this value. -/
  | badValue (key : SettingKey) (value : Toml.Value)

namespace Misfit

/-- The key as it is written. -/
def keyName : Misfit → String
  | .unknownKey key => key
  | .badValue key _ => key.name

/-- A value by its kind, and by its content as far as it is short. -/
def describeValue : Toml.Value → String
  | .text value => "string " ++ Quoted.write value
  | .integer value => "integer `" ++ Numeral.writeInt value ++ "`"
  | .float value => "floating point `" ++ ShortestDecimal.write value ++ "`"
  | .boolean value => "boolean `" ++ (if value then "true" else "false") ++ "`"
  | .array _ => "sequence"
  | .tables _ _ => "sequence"
  | .moment _ => "map"
  | .table _ _ => "map"

/-- Whether a value is of the right kind, so that only its size can be wrong. -/
def isWrongSize : SettingKey → Toml.Value → Bool
  | .iconSource, _ => false
  | _, .integer _ => true
  | _, _ => false

/-- What is said about a misfit. -/
def reason : Misfit → String
  | .unknownKey key =>
      "unknown field `" ++ key ++ "`, expected one of " ++
        ", ".intercalate (SettingKey.all.map fun key => "`" ++ key.name ++ "`")
  | .badValue key value =>
      (if isWrongSize key value then "invalid value: " else "invalid type: ") ++
        describeValue value ++ ", expected " ++ key.expected

end Misfit

namespace Settings

/-- A size, if the integer is one. -/
def int32? (n : Int) : Option Int32 :=
  if -0x80000000 ≤ n ∧ n < 0x80000000 then some (Int32.ofInt n) else none

/-- A count, if the integer is one. -/
def uint32? (n : Int) : Option UInt32 :=
  if 0 ≤ n ∧ n < 0x100000000 then some (UInt32.ofNat n.toNat) else none

/-- The settings with one of them set to a value, if the value fits. -/
def set? (s : Settings) : SettingKey → Toml.Value → Option Settings
  | .fallbackWidth, .integer n => (int32? n).map fun width => { s with fallbackWidth := width }
  | .fallbackHeight, .integer n => (int32? n).map fun height => { s with fallbackHeight := height }
  | .flashCount, .integer n => (uint32? n).map s.withFlashCount
  | .iconSource, .text path => some (s.withIconSource ⟨path⟩)
  | _, _ => none

/-- The settings with one more key taken into account. -/
def enter (s : Settings) (entry : String × Toml.Value) : Except Misfit Settings :=
  match SettingKey.ofName? entry.1 with
  | none => .error (.unknownKey entry.1)
  | some key =>
      match s.set? key entry.2 with
      | none => .error (.badValue key entry.2)
      | some s => .ok s

/-- The settings that a table gives.  Its keys are looked at in order, up to the first that
does not fit. -/
def ofEntries (entries : Toml.Entries) : Except Misfit Settings := entries.foldlM enter default

end Settings

end WindowDecor
