import WindowDecor.Proofs.Settings.Acceptance
import WindowDecor.Proofs.Toml.Writing

/-!
# Settings that were written down

Settings can be built by changing the defaults, and they can be written down and read.  Both lead to
the same settings, whichever keys are chosen and in whatever order they are written.

* `SettingValues` — a value for each key; `SettingValues.entries` and `SettingValues.changes` are
  the table and the changes that a choice of keys comes to.
* `SettingValues.write` — the table in text, one line for each key.
* **`SettingValues.roundTrips`** — reading gives what changing gives
  (`SettingValues.RoundTrips`), for this text and for every other way to write the table, whatever
  the reader, as long as it reads tables (`Toml.Reader.ReadsTables`).
-/

namespace WindowDecor

/-- A value for each key. -/
structure SettingValues where
  width : Int32
  height : Int32
  count : UInt32
  source : String

namespace SettingValues

variable (v : SettingValues) (keys : List SettingKey)

/-! ## Tables and changes -/

/-- The value as it stands in a table. -/
def value : SettingKey → Toml.Value
  | .fallbackWidth => .integer v.width.toInt
  | .fallbackHeight => .integer v.height.toInt
  | .flashCount => .integer v.count.toNat
  | .iconSource => .text v.source

/-- The table with the given keys, in the given order. -/
def entries : Toml.Entries := keys.map fun key => (key.name, v.value key)

/-- The changes that set the given keys.  A dimension that is not among them keeps its default. -/
def changes : List SettingChange :=
  (if .fallbackWidth ∈ keys ∨ .fallbackHeight ∈ keys then
    [.fallbackSize (if .fallbackWidth ∈ keys then v.width else Settings.default.fallbackWidth)
      (if .fallbackHeight ∈ keys then v.height else Settings.default.fallbackHeight)]
  else []) ++
    (if .flashCount ∈ keys then [.flashCount v.count] else []) ++
    (if .iconSource ∈ keys then [.iconSource ⟨v.source⟩] else [])

/-- The settings that these changes lead to. -/
def built : Settings := Settings.default.applyAll (v.changes keys)

/-- Setting by setting: what was written, or else the default. -/
theorem built_eq : v.built keys =
    { fallbackWidth := if .fallbackWidth ∈ keys then v.width else 200
      fallbackHeight := if .fallbackHeight ∈ keys then v.height else 100
      flashCount := if .flashCount ∈ keys then v.count else 2
      iconSource := if .iconSource ∈ keys then some ⟨v.source⟩ else none } := by
  by_cases hwidth : .fallbackWidth ∈ keys <;> by_cases hheight : .fallbackHeight ∈ keys <;>
    by_cases hcount : .flashCount ∈ keys <;> by_cases hsource : .iconSource ∈ keys <;>
    simp only [built, changes, hwidth, hheight, hcount, hsource] <;> rfl

/-- What is written for a key, the key takes. -/
theorem fits_value (key : SettingKey) : Settings.Fits key.name (v.value key) := by
  cases key with
  | fallbackWidth => exact .fallbackWidth v.width.le_toInt (Int.le_sub_one_of_lt v.width.toInt_lt)
  | fallbackHeight =>
    exact .fallbackHeight v.height.le_toInt (Int.le_sub_one_of_lt v.height.toInt_lt)
  | flashCount =>
    have hcount := v.count.toNat_lt
    exact .flashCount (Int.natCast_nonneg _) (by omega)
  | iconSource => exact .iconSource v.source

theorem allFit_entries : Settings.AllFit (v.entries keys) := by
  intro entry hentry
  obtain ⟨key, -, rfl⟩ := List.mem_map.mp hentry
  exact v.fits_value key

theorem name_injective {key key' : SettingKey} (h : key.name = key'.name) : key = key' := by
  have hfound := congrArg SettingKey.ofName? h
  rw [Settings.ofName?_name, Settings.ofName?_name] at hfound
  exact Option.some.inj hfound

theorem nodup_keysOf_entries {keys : List SettingKey} (hnodup : keys.Nodup) :
    (Toml.keysOf (v.entries keys)).Nodup := by
  rw [Toml.keysOf, entries, List.map_map]
  exact List.Pairwise.map _ (fun _ _ hne hsame => hne (name_injective hsame)) hnodup

/-- What was written is found under its key, and nothing else is. -/
theorem lookup_entries (key : SettingKey) :
    (v.entries keys).lookup key.name = if key ∈ keys then some (v.value key) else none := by
  induction keys with
  | nil => rfl
  | cons k rest ih =>
    have hcons : v.entries (k :: rest) = (k.name, v.value k) :: v.entries rest := rfl
    rw [hcons, List.lookup_cons, ih]
    by_cases hkey : key = k
    · subst hkey
      simp
    · have hbeq : (key.name == k.name) = false := beq_false_of_ne (mt name_injective hkey)
      simp [hbeq, hkey]

/-- **The changes lead to the values of the table.** -/
theorem hasValues_built : (v.built keys).HasValues (v.entries keys) := by
  have hlookup := v.lookup_entries keys
  constructor
  case fallbackWidth =>
    have hwidth : (v.entries keys).lookup "fallback_width" = _ := hlookup .fallbackWidth
    rw [hwidth]
    simp only [built_eq]
    split <;> rfl
  case fallbackHeight =>
    have hheight : (v.entries keys).lookup "fallback_height" = _ := hlookup .fallbackHeight
    rw [hheight]
    simp only [built_eq]
    split <;> rfl
  case flashCount =>
    have hcount : (v.entries keys).lookup "flash_count" = _ := hlookup .flashCount
    rw [hcount]
    simp only [built_eq]
    split <;> rfl
  case iconSource =>
    have hsource : (v.entries keys).lookup "icon_source" = _ := hlookup .iconSource
    rw [hsource]
    simp only [built_eq]
    split <;> rfl

/-! ## Texts -/

/-- A way to write the value of a key. -/
def spelling : SettingKey → List Char
  | .fallbackWidth => (Numeral.writeInt v.width.toInt).toList
  | .fallbackHeight => (Numeral.writeInt v.height.toInt).toList
  | .flashCount => (Numeral.writeInt v.count.toNat).toList
  | .iconSource => '"' :: (v.source.toList.flatMap Toml.escapeChar ++ ['"'])

/-- The keys with their values, a line for each. -/
def write : List Char :=
  keys.flatMap fun key => Toml.writeLine key.name.toList (v.spelling key) ++ ['\n']

/-- The names need no quotes. -/
theorem bareKey_name (key : SettingKey) : Toml.BareKey key.name.toList := by
  have hchars : key.name.toList.all Toml.isBareKeyChar = true := by cases key <;> rfl
  exact ⟨by cases key <;> simp [SettingKey.name], List.all_eq_true.mp hchars⟩

/-- Every value is written in a spelling of its own. -/
theorem valueSpelling (key : SettingKey) : Toml.ValueSpelling (v.value key) (v.spelling key) := by
  cases key with
  | fallbackWidth =>
    have hlow := v.width.le_toInt
    have hhigh := v.width.toInt_lt
    exact .integer (by omega) (by omega)
  | fallbackHeight =>
    have hlow := v.height.le_toInt
    have hhigh := v.height.toInt_lt
    exact .integer (by omega) (by omega)
  | flashCount =>
    have hhigh := v.count.toNat_lt
    exact .integer (by omega) (by omega)
  | iconSource => exact .text (Toml.textSpelling_escape _)

/-- What is written is a way to write the table. -/
theorem tableSpelling_write : Toml.TableSpelling (v.entries keys) (v.write keys) := by
  induction keys with
  | nil => exact .empty
  | cons key rest ih =>
    have hline := Toml.TableSpelling.line (bareKey_name key) (v.valueSpelling key) ih
    rw [write, List.flatMap_cons, List.append_assoc]
    exact hline

/-- Reading a file gives what reading its text gives. -/
@[simp] theorem ofFile_toUTF8 (reader : Toml.Reader) (text : String) :
    Settings.ofFile reader (.ok text.toUTF8) = Settings.ofToml reader text := by
  have hdecoded : String.fromUTF8? text.toUTF8 = some text := dif_pos text.isValidUTF8
  rw [Settings.ofFile, hdecoded]

/-- What can be relied on when the values of some keys are written down. -/
structure RoundTrips (reader : Toml.Reader) (v : SettingValues) (keys : List SettingKey) : Prop
    where
  /-- However the table is written, reading it gives the settings that are built from the
  defaults. -/
  ofToml_eq : ∀ text : String, Toml.TableSpelling (v.entries keys) text.toList →
    Settings.ofToml reader text = .ok (v.built keys)
  /-- A file with that text gives the same. -/
  ofFile_eq : ∀ text : String, Toml.TableSpelling (v.entries keys) text.toList →
    Settings.ofFile reader (.ok text.toUTF8) = .ok (v.built keys)
  /-- It can be written like this. -/
  written : Toml.TableSpelling (v.entries keys) (String.ofList (v.write keys)).toList
  /-- The icon source has the very text that was written. -/
  source_eq : .iconSource ∈ keys → (v.built keys).iconSource = some ⟨v.source⟩

/-- **Settings are read as they were written**, for all values and each choice and order of keys, by
every reader that reads tables. -/
theorem roundTrips (reader : Toml.Reader) (hreader : reader.ReadsTables) (v : SettingValues)
    (keys : List SettingKey) (hnodup : keys.Nodup) : RoundTrips reader v keys := by
  have hread : ∀ text : String, Toml.TableSpelling (v.entries keys) text.toList →
      Settings.ofToml reader text = .ok (v.built keys) := by
    intro text htext
    have hkeys := v.nodup_keysOf_entries hnodup
    obtain ⟨reading, hreading, hentries⟩ := hreader _ text htext hkeys
    rw [Settings.ofToml_eq_ok_iff hreading (hentries ▸ hkeys), hentries]
    exact ⟨v.allFit_entries keys, v.hasValues_built keys⟩
  constructor
  case ofToml_eq => exact hread
  case ofFile_eq =>
    intro text htext
    rw [ofFile_toUTF8, hread text htext]
  case written =>
    rw [String.toList_ofList]
    exact v.tableSpelling_write keys
  case source_eq =>
    intro hmem
    rw [built_eq, if_pos hmem]

/-- The least width, and a source with a quote, a backslash, a control character and a letter that
is not ASCII, the other way round than keys are listed. -/
theorem roundTrips_escapes :
    let v : SettingValues := ⟨-2147483648, 0, 0, "a\"\\\x1bé"⟩
    let keys : List SettingKey := [.iconSource, .fallbackWidth]
    Toml.Document.reader.ReadsTables ∧ keys.Nodup ∧ RoundTrips Toml.Document.reader v keys ∧
      String.ofList (v.write keys) =
        "icon_source = \"a\\\"\\\\\\u001bé\"\nfallback_width = -2147483648\n" ∧
      v.built keys = ⟨-2147483648, 100, 2, some ⟨"a\"\\\x1bé"⟩⟩ := by
  intro v keys
  have hreader := Toml.Document.readsTables_reader
  have hnodup : keys.Nodup := by decide
  exact ⟨hreader, hnodup, roundTrips _ hreader v keys hnodup, by decide, by decide⟩

end SettingValues

end WindowDecor
