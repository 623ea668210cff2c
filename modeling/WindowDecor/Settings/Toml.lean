import WindowDecor.Settings.Entries
import WindowDecor.SystemError
import WindowDecor.Toml.Reader

/-!
# Settings from a document

A document gives the settings that its root table gives.  What the root table is, a reader tells.

* `Settings.ofToml` — the settings that a text gives, or what is wrong with it.  **A text that is no
  document is refused before any of its keys is looked at.**
* `Settings.ofFile` — the same for what reading a file gave.
* `SettingsError.message?` — what is told to users, with the place that is at fault.
-/

namespace WindowDecor

/-- Why a file gives no text. -/
inductive ReadFailure where
  | system (error : SystemError)
  | invalidUtf8
  deriving DecidableEq

namespace ReadFailure

/-- What is told to users of a file that gives no text. -/
def message : ReadFailure → String
  | .system error => error.message
  | .invalidUtf8 => "stream did not contain valid UTF-8"

end ReadFailure

/-- Why there are no settings. -/
inductive SettingsError where
  /-- The file gives no text. -/
  | unreadable (failure : ReadFailure)
  /-- The text is not a document. -/
  | malformed
  /-- The document has a root key that does not fit. -/
  | misfit (fault : Misfit) (place : Toml.Excerpt)

namespace SettingsError

/-- What is told to users.  Of a text that is no document nothing more is said. -/
def message? : SettingsError → Option String
  | .unreadable failure => some ("failed to read chrome configuration: " ++ failure.message)
  | .malformed => none
  | .misfit fault place => some ("invalid chrome configuration: " ++ place.render fault.reason)

end SettingsError

namespace Settings

/-- Where in a document a misfit stands: the key if it is unknown, else its value. -/
def place (reading : Toml.Reading) : Misfit → Toml.Excerpt
  | .unknownKey key => reading.keyExcerpt key
  | .badValue key _ => reading.valueExcerpt key.name

variable (reader : Toml.Reader)

/-- The settings that a text gives. -/
def ofToml (text : String) : Except SettingsError Settings :=
  match reader.read? text with
  | none => .error .malformed
  | some reading =>
      match ofEntries reading.entries with
      | .ok s => .ok s
      | .error fault => .error (.misfit fault (place reading fault))

/-- The settings that a file gives, from its bytes or from why there are none. -/
def ofFile : Except SystemError ByteArray → Except SettingsError Settings
  | .error error => .error (.unreadable (.system error))
  | .ok bytes =>
      match String.fromUTF8? bytes with
      | none => .error (.unreadable .invalidUtf8)
      | some text => ofToml reader text

/-- The settings that a text gives, or the defaults if there is none, with changes made to them. -/
def build (text : Option String) (changes : List SettingChange) : Except SettingsError Settings :=
  match text with
  | none => .ok (default.applyAll changes)
  | some text => (ofToml reader text).map (·.applyAll changes)

end Settings

end WindowDecor
