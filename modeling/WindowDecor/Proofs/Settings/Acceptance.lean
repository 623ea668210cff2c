import Mathlib.Algebra.Group.Int.Defs
import Mathlib.Data.List.Induction
import Mathlib.Data.List.Nodup
import WindowDecor.Proofs.Toml.RootKeys
import WindowDecor.Settings.Toml

/-!
# Which documents give settings

A document gives settings if its root table holds nothing but known keys with values that fit them.
Then the settings have those values, and else the first key that does not fit is reported.  All of
this is true of whatever reads documents, as long as it takes their keys in order
(`Toml.Reader.InOrder`).

* `Settings.Fits` — which values fit which key, written down apart from the reader.
* `Settings.HasValues` — settings that have the values of a table, and the defaults where it has
  none.
* `Settings.Reports` — what is reported of an entry that does not fit.
* `Settings.enter_of_fits`, `Settings.enter_of_not_fits` — one key.
* `Settings.AllFit`, `Settings.FirstMisfit` — the two kinds of tables, and
  **`Settings.ofEntries_cases`** what is made of each of them, key by key.
* `Settings.FirstOffender` — the first misfit among the keys that a text names.
* **`Settings.accepts`** — what follows for documents (`Settings.AcceptsExactly`).
-/

namespace WindowDecor

/-! ## Values -/

namespace Toml.Value

/-- The number that a value is. -/
def asInteger? : Value → Option Int
  | .integer n => some n
  | _ => none

/-- The text that a value is. -/
def asText? : Value → Option String
  | .text value => some value
  | _ => none

end Toml.Value

namespace Settings

/-- The values that fit a key. -/
inductive Fits : String → Toml.Value → Prop
  | fallbackWidth {n : Int} (hlow : -2 ^ 31 ≤ n) (hhigh : n ≤ 2 ^ 31 - 1) :
      Fits "fallback_width" (.integer n)
  | fallbackHeight {n : Int} (hlow : -2 ^ 31 ≤ n) (hhigh : n ≤ 2 ^ 31 - 1) :
      Fits "fallback_height" (.integer n)
  | flashCount {n : Int} (hlow : 0 ≤ n) (hhigh : n ≤ 2 ^ 32 - 1) : Fits "flash_count" (.integer n)
  | iconSource (path : String) : Fits "icon_source" (.text path)

/-- Settings with the values of a table, and with the defaults for the keys that it lacks. -/
structure HasValues (s : Settings) (entries : Toml.Entries) : Prop where
  fallbackWidth : s.fallbackWidth.toInt =
    ((entries.lookup "fallback_width").bind (·.asInteger?)).getD 200
  fallbackHeight : s.fallbackHeight.toInt =
    ((entries.lookup "fallback_height").bind (·.asInteger?)).getD 100
  flashCount : (s.flashCount.toNat : Int) =
    ((entries.lookup "flash_count").bind (·.asInteger?)).getD 2
  iconSource : s.iconSource =
    ((entries.lookup "icon_source").bind (·.asText?)).map FilePath.mk

/-- What is reported of an entry that does not fit: an unknown key whatever its value, and a known
one with it. -/
inductive Reports : String → Toml.Value → Misfit → Prop
  | unknownKey {key : String} (value : Toml.Value) (hunknown : ∀ k : SettingKey, k.name ≠ key) :
      Reports key value (.unknownKey key)
  | badValue (key : SettingKey) {value : Toml.Value} (hmisfit : ¬ Fits key.name value) :
      Reports key.name value (.badValue key value)

/-! ## One key -/

/-- Every key is found by its name. -/
@[simp] theorem ofName?_name (key : SettingKey) : SettingKey.ofName? key.name = some key := by
  cases key <;> decide

theorem ofName?_eq_none {name : String} (h : SettingKey.ofName? name = none) (key : SettingKey) :
    key.name ≠ name := by
  rintro rfl
  rw [ofName?_name] at h
  cases h

theorem name_of_ofName? {name : String} {key : SettingKey}
    (h : SettingKey.ofName? name = some key) : key.name = name := by
  have hfound := List.find?_some h
  simpa using hfound

/-- What fits into 32 bits is taken. -/
theorem int32?_eq_some {n : Int} (hlow : -2 ^ 31 ≤ n) (hhigh : n ≤ 2 ^ 31 - 1) :
    int32? n = some (Int32.ofInt n) := if_pos (by omega)

theorem range_of_int32? {n : Int} {size : Int32} (h : int32? n = some size) :
    -2 ^ 31 ≤ n ∧ n ≤ 2 ^ 31 - 1 := by
  simp only [int32?] at h
  split at h
  · omega
  · cases h

theorem uint32?_eq_some {n : Int} (hlow : 0 ≤ n) (hhigh : n ≤ 2 ^ 32 - 1) :
    uint32? n = some (UInt32.ofNat n.toNat) := if_pos (by omega)

theorem range_of_uint32? {n : Int} {count : UInt32} (h : uint32? n = some count) :
    0 ≤ n ∧ n ≤ 2 ^ 32 - 1 := by
  simp only [uint32?] at h
  split at h
  · omega
  · cases h

/-- A value that a setting takes fits its key. -/
theorem fits_of_set? {s s' : Settings} {key : SettingKey} {value : Toml.Value}
    (h : s.set? key value = some s') : Fits key.name value := by
  cases key with
  | fallbackWidth =>
    cases value with
    | integer n =>
      obtain ⟨width, hwidth, -⟩ := Option.map_eq_some_iff.mp h
      obtain ⟨hlow, hhigh⟩ := range_of_int32? hwidth
      exact .fallbackWidth hlow hhigh
    | _ => cases h
  | fallbackHeight =>
    cases value with
    | integer n =>
      obtain ⟨height, hheight, -⟩ := Option.map_eq_some_iff.mp h
      obtain ⟨hlow, hhigh⟩ := range_of_int32? hheight
      exact .fallbackHeight hlow hhigh
    | _ => cases h
  | flashCount =>
    cases value with
    | integer n =>
      obtain ⟨count, hcount, -⟩ := Option.map_eq_some_iff.mp h
      obtain ⟨hlow, hhigh⟩ := range_of_uint32? hcount
      exact .flashCount hlow hhigh
    | _ => cases h
  | iconSource =>
    cases value with
    | text path => exact .iconSource path
    | _ => cases h

/-- An entry that does not fit is reported. -/
theorem enter_of_not_fits (s : Settings) {key : String} {value : Toml.Value}
    (h : ¬ Fits key value) :
    ∃ fault, Reports key value fault ∧ s.enter (key, value) = .error fault := by
  cases hname : SettingKey.ofName? key with
  | none => exact ⟨_, .unknownKey value (ofName?_eq_none hname), by simp only [enter, hname]⟩
  | some k =>
    obtain rfl := name_of_ofName? hname
    have hset : s.set? k value = none := by
      rw [Option.eq_none_iff_forall_ne_some]
      exact fun s' hs' => h (fits_of_set? hs')
    exact ⟨_, .badValue k h, by simp only [enter, hname, hset]⟩

/-- A new entry at the end is found under its key and changes nothing else. -/
theorem lookup_snoc {entries : Toml.Entries} {key : String} (hnew : key ∉ Toml.keysOf entries)
    (value : Toml.Value) (other : String) : (entries ++ [(key, value)]).lookup other =
      if other = key then some value else entries.lookup other := by
  have hnone := Toml.lookup_eq_none_iff.mpr hnew
  rw [List.lookup_append]
  by_cases hother : other = key
  · simp [hother, hnone]
  · have hbeq : (other == key) = false := beq_false_of_ne hother
    simp [hother, List.lookup_cons, hbeq]

theorem toInt_ofInt {n : Int} (hlow : -2 ^ 31 ≤ n) (hhigh : n ≤ 2 ^ 31 - 1) :
    (Int32.ofInt n).toInt = n := Int32.toInt_ofInt_of_le hlow (by omega)

/-- A value that its key takes is entered. -/
theorem enter_of_set? {s s' : Settings} (key : SettingKey) {value : Toml.Value}
    (h : s.set? key value = some s') : s.enter (key.name, value) = .ok s' := by
  simp [enter, h]

/-- **An entry that fits is taken over**, and nothing else changes. -/
theorem enter_of_fits {s : Settings} {entries : Toml.Entries} (hs : s.HasValues entries)
    {key : String} {value : Toml.Value} (hfits : Fits key value)
    (hnew : key ∉ Toml.keysOf entries) :
    ∃ s', s.enter (key, value) = .ok s' ∧ s'.HasValues (entries ++ [(key, value)]) := by
  have hlookup := lookup_snoc hnew value
  cases hfits with
  | @fallbackWidth n hlow hhigh =>
    have hset : s.set? .fallbackWidth (.integer n) =
        some { s with fallbackWidth := Int32.ofInt n } :=
      congrArg (Option.map _) (int32?_eq_some hlow hhigh)
    refine ⟨_, enter_of_set? .fallbackWidth hset, ?_⟩
    constructor <;> simp only [hlookup]
    · exact toInt_ofInt hlow hhigh
    · exact hs.fallbackHeight
    · exact hs.flashCount
    · exact hs.iconSource
  | @fallbackHeight n hlow hhigh =>
    have hset : s.set? .fallbackHeight (.integer n) =
        some { s with fallbackHeight := Int32.ofInt n } :=
      congrArg (Option.map _) (int32?_eq_some hlow hhigh)
    refine ⟨_, enter_of_set? .fallbackHeight hset, ?_⟩
    constructor <;> simp only [hlookup]
    · exact hs.fallbackWidth
    · exact toInt_ofInt hlow hhigh
    · exact hs.flashCount
    · exact hs.iconSource
  | @flashCount n hlow hhigh =>
    have hset : s.set? .flashCount (.integer n) =
        some (s.withFlashCount (UInt32.ofNat n.toNat)) :=
      congrArg (Option.map _) (uint32?_eq_some hlow hhigh)
    have hcount : (UInt32.ofNat n.toNat).toNat = n.toNat :=
      UInt32.toNat_ofNat_of_lt' (by simp only [UInt32.size]; omega)
    refine ⟨_, enter_of_set? .flashCount hset, ?_⟩
    constructor <;> simp only [hlookup]
    · exact hs.fallbackWidth
    · exact hs.fallbackHeight
    · exact (congrArg Int.ofNat hcount).trans (Int.toNat_of_nonneg hlow)
    · exact hs.iconSource
  | iconSource path =>
    refine ⟨s.withIconSource ⟨path⟩, enter_of_set? .iconSource rfl, ?_⟩
    constructor <;> simp only [hlookup]
    · exact hs.fallbackWidth
    · exact hs.fallbackHeight
    · exact hs.flashCount
    · rfl

/-! ## Tables -/

/-- Every entry fits. -/
def AllFit (entries : Toml.Entries) : Prop := ∀ entry ∈ entries, Fits entry.1 entry.2

/-- The first entry that does not fit, and what is reported of it. -/
def FirstMisfit (entries : Toml.Entries) (fault : Misfit) : Prop :=
  ∃ before key value after, entries = before ++ (key, value) :: after ∧ AllFit before ∧
    ¬ Fits key value ∧ Reports key value fault

/-- A table with a first misfit does not fit. -/
theorem FirstMisfit.not_allFit {entries : Toml.Entries} {fault : Misfit}
    (h : FirstMisfit entries fault) : ¬ AllFit entries := by
  obtain ⟨before, key, value, after, rfl, -, hmisfit, -⟩ := h
  exact fun hall => hmisfit (hall (key, value) (List.mem_append_right _ List.mem_cons_self))

theorem hasValues_default : default.HasValues [] := ⟨rfl, rfl, rfl, rfl⟩

/-- **A table gives its values, or the first entry that does not fit.** -/
theorem ofEntries_cases {entries : Toml.Entries} (hnodup : (Toml.keysOf entries).Nodup) :
    (AllFit entries ∧ ∃ s, ofEntries entries = .ok s ∧ s.HasValues entries) ∨
      ∃ fault, FirstMisfit entries fault ∧ ofEntries entries = .error fault := by
  induction entries using List.reverseRecOn with
  | nil => exact .inl ⟨fun _ h => absurd h List.not_mem_nil, default, rfl, hasValues_default⟩
  | append_singleton entries entry ih =>
    obtain ⟨key, value⟩ := entry
    have hsplit : Toml.keysOf (entries ++ [(key, value)]) = Toml.keysOf entries ++ [key] :=
      List.map_append
    rw [hsplit, List.nodup_append] at hnodup
    obtain ⟨hearlier, -, hnot⟩ := hnodup
    have hnew : key ∉ Toml.keysOf entries :=
      fun hmem => hnot key hmem key (List.mem_singleton.mpr rfl) rfl
    have hfold : ofEntries (entries ++ [(key, value)]) =
        ofEntries entries >>= fun s => s.enter (key, value) := by
      simp only [ofEntries, List.foldlM_append, List.foldlM_cons, List.foldlM_nil, bind_pure]
    rcases ih hearlier with ⟨hall, s, hs, hvalues⟩ | ⟨fault, hfirst, herror⟩
    · rw [hfold, hs]
      by_cases hfits : Fits key value
      · obtain ⟨s', hs', hvalues'⟩ := enter_of_fits hvalues hfits hnew
        refine .inl ⟨fun entry hentry => ?_, s', hs', hvalues'⟩
        rcases List.mem_append.mp hentry with hearly | hlast
        · exact hall entry hearly
        · obtain rfl := List.mem_singleton.mp hlast
          exact hfits
      · obtain ⟨fault, hreports, hfault⟩ := enter_of_not_fits s hfits
        exact .inr ⟨fault, ⟨entries, key, value, [], rfl, hall, hfits, hreports⟩, hfault⟩
    · rw [hfold, herror]
      obtain ⟨before, k, v, after, rfl, hrest⟩ := hfirst
      refine .inr ⟨fault, ⟨before, k, v, after ++ [(key, value)], ?_, hrest⟩, rfl⟩
      rw [List.append_assoc, List.cons_append]

/-- There is only one choice of settings with the values of a table. -/
theorem HasValues.unique {s s' : Settings} {entries : Toml.Entries} (h : s.HasValues entries)
    (h' : s'.HasValues entries) : s = s' := by
  have hwidth := Int32.toInt_inj.mp (h.fallbackWidth.trans h'.fallbackWidth.symm)
  have hheight := Int32.toInt_inj.mp (h.fallbackHeight.trans h'.fallbackHeight.symm)
  have hcount := UInt32.toNat_inj.mp (Int.ofNat.inj (h.flashCount.trans h'.flashCount.symm))
  have hsource := h.iconSource.trans h'.iconSource.symm
  obtain ⟨width, height, count, source⟩ := s
  obtain ⟨width', height', count', source'⟩ := s'
  obtain rfl : width = width' := hwidth
  obtain rfl : height = height' := hheight
  obtain rfl : count = count' := hcount
  obtain rfl : source = source' := hsource
  rfl

/-- Without repeated keys, what is found is what is there. -/
theorem lookup_eq_some_iff_mem {entries : Toml.Entries} (hnodup : (Toml.keysOf entries).Nodup)
    {key : String} {value : Toml.Value} :
    entries.lookup key = some value ↔ (key, value) ∈ entries := by
  induction entries with
  | nil => simp
  | cons entry rest ih =>
    obtain ⟨k, v⟩ := entry
    obtain ⟨hnew, hrest⟩ := List.nodup_cons.mp hnodup
    rw [List.mem_cons, List.lookup_cons, ← ih hrest]
    by_cases hkey : key = k
    · subst hkey
      have hnone := Toml.lookup_eq_none_iff.mpr hnew
      simp [hnone, eq_comm]
    · have hbeq : (key == k) = false := beq_false_of_ne hkey
      simp [hkey, hbeq]

/-- The order of a table's entries makes no difference. -/
theorem HasValues.of_perm {s : Settings} {entries entries' : Toml.Entries}
    (h : s.HasValues entries) (hnodup : (Toml.keysOf entries).Nodup)
    (hperm : entries'.Perm entries) : s.HasValues entries' := by
  have hnodup' : (Toml.keysOf entries').Nodup := (hperm.map _).nodup_iff.mpr hnodup
  have hlookup : ∀ key, entries'.lookup key = entries.lookup key := by
    intro key
    ext value
    rw [lookup_eq_some_iff_mem hnodup', lookup_eq_some_iff_mem hnodup, hperm.mem_iff]
  constructor
  · rw [hlookup]
    exact h.fallbackWidth
  · rw [hlookup]
    exact h.fallbackHeight
  · rw [hlookup]
    exact h.flashCount
  · rw [hlookup]
    exact h.iconSource

/-! ## The keys that a text names -/

/-- The first of the names whose entry does not fit, and what is reported of it. -/
def FirstOffender (names : List String) (entries : Toml.Entries) (fault : Misfit) : Prop :=
  ∃ before key after value, names = before ++ key :: after ∧
    (∀ earlier ∈ before, ∃ v, entries.lookup earlier = some v ∧ Fits earlier v) ∧
    entries.lookup key = some value ∧ ¬ Fits key value ∧ Reports key value fault

/-- Of a table whose keys are in order of first appearance, the first entry that does not fit has the
first name whose entry does not. -/
theorem FirstMisfit.firstOffender {names : List String} {entries : Toml.Entries} {fault : Misfit}
    (h : FirstMisfit entries fault)
    (horder : Toml.keysOf entries = Toml.firstAppearances names) :
    FirstOffender names entries fault := by
  have hnodup : (Toml.keysOf entries).Nodup := horder ▸ Toml.nodup_firstAppearances names
  obtain ⟨fitting, key, value, others, rfl, hfitting, hmisfit, hreports⟩ := h
  have hlookup {k : String} {v : Toml.Value} (hmem : (k, v) ∈ fitting ++ (key, value) :: others) :=
    (lookup_eq_some_iff_mem hnodup).mpr hmem
  have hkeys : Toml.keysOf (fitting ++ (key, value) :: others) =
      Toml.keysOf fitting ++ key :: Toml.keysOf others := by simp [Toml.keysOf]
  rw [hkeys] at horder hnodup
  have hnew := (List.nodup_cons.mp (List.nodup_middle.mp hnodup)).1
  rw [List.mem_append, not_or] at hnew
  have hnamed : key ∈ names :=
    Toml.mem_firstAppearances.mp (horder ▸ List.mem_append_right _ List.mem_cons_self)
  obtain ⟨before, after, rfl, hfirst⟩ := List.eq_append_cons_of_mem hnamed
  -- the names before its first appearance are those of the entries that fit
  obtain ⟨rest, hrest⟩ := Toml.firstAppearances_append_cons hfirst after
  rw [hrest, List.append_cons_inj_of_notMem hnew.1 hnew.2] at horder
  refine ⟨before, key, after, value, rfl, fun earlier hearlier => ?_,
    hlookup (by simp), hmisfit, hreports⟩
  have hmem : earlier ∈ Toml.keysOf fitting := horder.1 ▸ Toml.mem_firstAppearances.mpr hearlier
  obtain ⟨⟨_, v⟩, hentry, rfl⟩ := List.mem_map.mp hmem
  exact ⟨v, hlookup (List.mem_append_left _ hentry), hfitting _ hentry⟩

/-! ## Documents -/

variable {reader : Toml.Reader}

/-- What a document gives, its root table gives. -/
theorem ofToml_eq {text : String} {reading : Toml.Reading}
    (hread : reader.read? text = some reading) :
    ofToml reader text =
      match ofEntries reading.entries with
      | .ok s => .ok s
      | .error fault => .error (.misfit fault (place reading fault)) := by
  cases hentries : ofEntries reading.entries <;> simp only [ofToml, hread, hentries]

/-- **A document gives settings just if all of its root keys fit**, and then those that have its
values. -/
theorem ofToml_eq_ok_iff {text : String} {reading : Toml.Reading}
    (hread : reader.read? text = some reading) (hnodup : (Toml.keysOf reading.entries).Nodup)
    (s : Settings) :
    ofToml reader text = .ok s ↔ AllFit reading.entries ∧ s.HasValues reading.entries := by
  rw [ofToml_eq hread]
  rcases ofEntries_cases hnodup with ⟨hall, s', hs', hvalues⟩ | ⟨fault, hfirst, herror⟩
  · rw [hs']
    constructor
    · rintro ⟨⟩
      exact ⟨hall, hvalues⟩
    · rintro ⟨-, hvalues'⟩
      rw [hvalues.unique hvalues']
  · rw [herror]
    constructor
    · rintro ⟨⟩
    · rintro ⟨hall, -⟩
      exact absurd hall hfirst.not_allFit

/-- What can be relied on for a text that names the root keys `names`, and that a reader takes for a
document. -/
structure AcceptsExactly (reader : Toml.Reader) (text : String) (names : List String)
    (reading : Toml.Reading) : Prop where
  /-- Settings are given just if all entries fit. -/
  accepted_iff : (∃ s, ofToml reader text = .ok s) ↔ AllFit reading.entries
  /-- And then they are the settings with the values of the entries. -/
  values : ∀ s, ofToml reader text = .ok s ↔
    AllFit reading.entries ∧ s.HasValues reading.entries
  /-- Another document that has the same entries in another order gives the same settings. -/
  any_order : ∀ text' reading', reader.read? text' = some reading' →
    reading'.entries.Perm reading.entries → ∀ s, ofToml reader text = .ok s →
      ofToml reader text' = .ok s
  /-- Else what is reported is about the first of the keys that does not fit, in the order in which
  the text names them, and about its place. -/
  refused : ¬ AllFit reading.entries → ∃ fault,
    ofToml reader text = .error (.misfit fault (place reading fault)) ∧
      FirstOffender names reading.entries fault

/-- **Acceptance of documents**, for every text that a reader takes for one, if it takes the keys in
order of first appearance. -/
theorem accepts (reader : Toml.Reader) (names : String → List String) (text : String)
    (reading : Toml.Reading) (horder : reader.InOrder names text)
    (hread : reader.read? text = some reading) :
    AcceptsExactly reader text (names text) reading := by
  have hkeys := horder reading hread
  have hnodup : (Toml.keysOf reading.entries).Nodup := hkeys ▸ Toml.nodup_firstAppearances _
  have hok := ofToml_eq_ok_iff hread hnodup
  constructor
  case accepted_iff =>
    constructor
    · rintro ⟨s, hs⟩
      exact ((hok s).mp hs).1
    · intro hall
      rcases ofEntries_cases hnodup with ⟨-, s, -, hvalues⟩ | ⟨fault, hfirst, -⟩
      · exact ⟨s, (hok s).mpr ⟨hall, hvalues⟩⟩
      · exact absurd hall hfirst.not_allFit
  case values => exact hok
  case any_order =>
    intro text' reading' hread' hperm s hs
    obtain ⟨hall, hvalues⟩ := (hok s).mp hs
    have hnodup' : (Toml.keysOf reading'.entries).Nodup := (hperm.map _).nodup_iff.mpr hnodup
    refine (ofToml_eq_ok_iff hread' hnodup' s).mpr ⟨fun entry hentry => ?_, ?_⟩
    · exact hall entry (hperm.mem_iff.mp hentry)
    · exact hvalues.of_perm hnodup hperm
  case refused =>
    intro hmisfit
    rcases ofEntries_cases hnodup with ⟨hall, -⟩ | ⟨fault, hfirst, herror⟩
    · exact absurd hall hmisfit
    · refine ⟨fault, ?_, hfirst.firstOffender hkeys⟩
      rw [ofToml_eq hread, herror]

/-- A document with a key that fits, a table that no setting takes, and behind it a table in place
of a number: the first of the two is reported. -/
theorem accepts_table :
    let text := "flash_count = 3\n[icons]\nlarge = 1\n[fallback_width]\n"
    ∃ reading, Toml.Document.reader.InOrder Toml.Document.namesOf text ∧
      Toml.Document.reader.read? text = some reading ∧
      AcceptsExactly Toml.Document.reader text (Toml.Document.namesOf text) reading ∧
      Toml.Document.namesOf text = ["flash_count", "icons", "fallback_width"] ∧
      (match ofToml Toml.Document.reader text with
        | .error (.misfit fault _) => some fault.keyName
        | _ => none) = some "icons" := by
  intro text
  have hnames : Toml.Document.namesOf text = ["flash_count", "icons", "fallback_width"] := by decide
  have horder : Toml.Document.reader.InOrder Toml.Document.namesOf text := by
    refine Toml.Document.inOrder_reader fun d hread => Toml.Document.headersLead_of_nodup ?_
    rw [Toml.Document.namesOf, hread] at hnames
    rw [show d.rootNames = _ from hnames]
    decide
  have hsome : (Toml.Document.reader.read? text).isSome := by decide
  obtain ⟨reading, hread⟩ := Option.isSome_iff_exists.mp hsome
  exact ⟨reading, horder, hread, accepts _ _ text reading horder hread, hnames, by decide⟩

end Settings

end WindowDecor
