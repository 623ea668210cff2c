import WindowDecor.Proofs.Toml.Laws
import WindowDecor.Toml.Document

/-!
# The keys of the root table

Whatever a document is made of, assignments with dotted keys, headers, headers of nested tables,
each of its lines names one key of the root table.  The table has those keys in order of first
appearance, as long as no table is implied before its own header.

* `keysOf_changeKey?`, `keysOf_assign?`, `Header.keysOf_open?`, `Section.keysOf_addTo?` — **naming a
  key adds it at the end if it is new**, and else leaves the keys as they are.  One case is
  different: a header moves a table that was only implied so far to the end.
* `Document.HeadersLead` — no table is implied before its own header.
* **`Document.keysOf_root?`** — then the keys of the root table are in order of first appearance, and
  so the reader takes them in order (`Document.inOrder_reader`).
-/

namespace WindowDecor.Toml

/-! ## Naming a key -/

/-- **Naming a key adds it at the end if it is new.** -/
theorem keysOf_changeKey? {key : String} {change : Option Value → Option Value}
    {entries entries' : Entries} (h : changeKey? key change entries = some entries') :
    keysOf entries' = noteName (keysOf entries) key := by
  induction entries generalizing entries' with
  | nil =>
    obtain ⟨value, -, rfl⟩ := Option.map_eq_some_iff.mp h
    rfl
  | cons entry rest ih =>
    obtain ⟨k, value⟩ := entry
    simp only [changeKey?] at h
    split at h
    · next hkey =>
      obtain ⟨value', -, rfl⟩ := Option.map_eq_some_iff.mp h
      exact (noteName_of_mem (by simp [keysOf, hkey])).symm
    · next hkey =>
      obtain ⟨rest', hrest, rfl⟩ := Option.map_eq_some_iff.mp h
      have hkeys : keysOf rest' = noteName (keysOf rest) key := ih hrest
      have hfront : keysOf ((k, value) :: rest') = k :: noteName (keysOf rest) key := by
        rw [← hkeys]
        rfl
      have hmem : key ∈ keysOf ((k, value) :: rest) ↔ key ∈ keysOf rest := by
        simp [keysOf, Ne.symm hkey]
      rw [hfront]
      simp only [noteName, hmem]
      split <;> rfl

/-- A key that is added is noted, unless it was there. -/
theorem keysOf_addKey? {dotted : Bool} {key : String} {value : Value} {origin : TableOrigin}
    {entries entries' : Entries} (h : addKey? dotted key value origin entries = some entries') :
    keysOf entries' = noteName (keysOf entries) key := by
  simp only [addKey?] at h
  split at h
  · next hnew =>
    obtain rfl := Option.some.inj h
    have hnot : key ∉ keysOf entries := by
      simp only [keysOf, List.mem_map, not_exists, not_and]
      exact hnew.2
    rw [noteName, if_neg hnot]
    exact List.map_append
  · cases h

/-- An assignment names the first of its keys. -/
theorem keysOf_assign? {path : KeyPath} {value : Value} {origin : TableOrigin}
    {entries entries' : Entries}
    (h : assign? path.parentTexts path.last.text value origin entries = some entries') :
    keysOf entries' = noteName (keysOf entries) path.root.text := by
  obtain ⟨parents, last⟩ := path
  cases parents with
  | nil => exact keysOf_addKey? h
  | cons part rest => exact keysOf_changeKey? h

/-- A header of a single table puts it at the end: because it is new, or because it was only implied
so far. -/
theorem keysOf_openTable? {key : String} {entries entries' : Entries}
    (h : openTable? key entries = some entries') :
    keysOf entries' = noteName (keysOf entries) key ∨
      key ∈ keysOf entries ∧ keysOf entries' = (keysOf entries).filter (· ≠ key) ++ [key] := by
  simp only [openTable?] at h
  split at h
  · next hnone =>
    obtain rfl := Option.some.inj h
    left
    rw [noteName, if_neg (lookup_eq_none_iff.mp hnone)]
    exact List.map_append
  · next inner hsome =>
    obtain rfl := Option.some.inj h
    right
    obtain ⟨before, after, rfl, -⟩ := List.lookup_eq_some_iff.mp hsome
    refine ⟨by simp [keysOf], ?_⟩
    rw [keysOf, List.map_append, keysOf, List.filter_map]
    rfl
  · cases h

namespace Header

variable {h : Header} {entries entries' : Entries}

/-- The root key that a header names is moved to the end. -/
def Moves (h : Header) (entries entries' : Entries) : Prop :=
  h.kind = .table ∧ h.path.parents = [] ∧ h.path.root.text ∈ keysOf entries ∧
    keysOf entries' = (keysOf entries).filter (· ≠ h.path.root.text) ++ [h.path.root.text]

/-- A header notes its key or moves the table. -/
theorem keysOf_open? (hopen : h.open? entries = some entries') :
    keysOf entries' = noteName (keysOf entries) h.path.root.text ∨ h.Moves entries entries' := by
  obtain ⟨kind, ⟨parents, last⟩, extent⟩ := h
  cases parents with
  | nil =>
    cases kind with
    | table =>
      refine (keysOf_openTable? hopen).imp id fun hmoved => ?_
      exact ⟨rfl, rfl, hmoved⟩
    | element => exact .inl (keysOf_changeKey? hopen)
  | cons part rest => exact .inl (keysOf_changeKey? hopen)

end Header

/-- What is done to a table step by step keeps what each step keeps. -/
theorem foldlM_induction {α β : Type} {f : β → α → Option β} {motive : β → Prop} {steps : List α}
    {b b' : β} (h : steps.foldlM f b = some b') (hb : motive b)
    (hstep : ∀ a ∈ steps, ∀ {b b'}, f b a = some b' → motive b → motive b') : motive b' := by
  induction steps generalizing b with
  | nil => exact Option.some.inj h ▸ hb
  | cons a rest ih =>
    obtain ⟨next, hnext, hrest⟩ := Option.bind_eq_some_iff.mp h
    exact ih hrest (hstep a List.mem_cons_self hnext hb)
      fun a ha => hstep a (List.mem_cons_of_mem _ ha)

namespace Section

variable {s : Section} {entries entries' : Entries}

/-- An assignment of a section names the root key that the section's header names. -/
theorem keysOf_assign? {header : Header} {a : Assignment}
    (h : Section.assign? header entries a = some entries') :
    keysOf entries' = noteName (keysOf entries) header.path.root.text := by
  obtain ⟨kind, ⟨parents, last⟩, extent⟩ := header
  cases parents with
  | nil => exact keysOf_changeKey? h
  | cons part rest => exact keysOf_changeKey? h

/-- **A section names one root key.** -/
theorem keysOf_addTo? (h : s.addTo? entries = some entries') :
    keysOf entries' = noteName (keysOf entries) s.header.path.root.text ∨
      s.header.Moves entries entries' := by
  obtain ⟨opened, hopen, hassign⟩ := Option.bind_eq_some_iff.mp h
  have hmoved := Header.keysOf_open? hopen
  -- the header has made sure that the key is there
  have hthere : s.header.path.root.text ∈ keysOf opened := by
    rcases hmoved with hnamed | ⟨-, -, -, hlast⟩
    · rw [hnamed]
      exact mem_noteName.mpr (.inr rfl)
    · simp [hlast]
  have hsame : keysOf entries' = keysOf opened := by
    refine foldlM_induction (motive := fun e => keysOf e = keysOf opened) hassign rfl ?_
    intro a _ before after hstep hbefore
    rw [keysOf_assign? hstep, hbefore, noteName_of_mem hthere]
  simp only [Header.Moves, hsame]
  exact hmoved

end Section

/-! ## The root table -/

namespace Document

variable {d : Document} {entries : Entries}

/-- The texts of the root keys that lines of the document name, in the order of the lines. -/
def rootNames (d : Document) : List String := d.rootParts.map (·.text)

/-- No root table is named before a header of its own. -/
def HeadersLead (d : Document) : Prop :=
  ∀ before s after, d.sections = before ++ s :: after → s.header.kind = .table →
    s.header.path.parents = [] → s.header.path.root.text ∉ rootNames ⟨d.preamble, before⟩

/-- The two halves of a document are looked at one after the other. -/
theorem root?_eq_some_iff : d.root? = some entries ↔
    ∃ first, d.preamble.foldlM (fun entries a =>
        Toml.assign? a.path.parentTexts a.path.last.text a.value .header entries) [] = some first ∧
      d.sections.foldlM Section.addTo? first = some entries := Option.bind_eq_some_iff

/-- A document names the keys of its assignments, then those of its headers. -/
theorem rootNames_eq (d : Document) : d.rootNames =
    d.preamble.map (·.path.root.text) ++ d.sections.map (·.header.path.root.text) := by
  simp [rootNames, rootParts, Function.comp_def]

/-- Steps that note one name each note all their names in order. -/
theorem keysOf_foldlM {α : Type} {f : Entries → α → Option Entries} {name : α → String}
    (hstep : ∀ {before a after}, f before a = some after →
      keysOf after = noteName (keysOf before) (name a))
    {steps : List α} {before after : Entries} (h : steps.foldlM f before = some after) :
    keysOf after = (steps.map name).foldl noteName (keysOf before) := by
  induction steps generalizing before with
  | nil =>
    obtain rfl := Option.some.inj h
    rfl
  | cons a rest ih =>
    obtain ⟨next, hnext, hrest⟩ := Option.bind_eq_some_iff.mp h
    rw [ih hrest, hstep hnext]
    rfl

/-- Sections whose headers are not preceded by their names put the names in order. -/
theorem keysOf_foldlM_addTo? {sections : List Section} {before after : Entries}
    (h : sections.foldlM Section.addTo? before = some after)
    (hlead : ∀ earlier s later, sections = earlier ++ s :: later → s.header.kind = .table →
      s.header.path.parents = [] → s.header.path.root.text ∉ keysOf before ∧
        s.header.path.root.text ∉ earlier.map (·.header.path.root.text)) :
    keysOf after = (sections.map (·.header.path.root.text)).foldl noteName (keysOf before) := by
  induction sections generalizing before with
  | nil =>
    obtain rfl := Option.some.inj h
    rfl
  | cons s rest ih =>
    obtain ⟨next, hnext, hrest⟩ := Option.bind_eq_some_iff.mp h
    have hnamed : keysOf next = noteName (keysOf before) s.header.path.root.text := by
      rcases Section.keysOf_addTo? hnext with hnamed | ⟨hkind, hsingle, hmem, -⟩
      · exact hnamed
      · exact absurd hmem (hlead [] s rest rfl hkind hsingle).1
    rw [List.map_cons, List.foldl_cons, ← hnamed]
    refine ih hrest fun earlier s' later hsplit hkind hsingle => ?_
    obtain ⟨hnew, hearlier⟩ :=
      hlead (s :: earlier) s' later (congrArg (s :: ·) hsplit) hkind hsingle
    rw [List.map_cons, List.mem_cons, not_or] at hearlier
    rw [hnamed, mem_noteName, not_or]
    exact ⟨⟨hnew, hearlier.1⟩, hearlier.2⟩

/-- **The keys are in order of first appearance**, if no table is implied before its own header. -/
theorem keysOf_root? (h : d.root? = some entries) (hlead : d.HeadersLead) :
    keysOf entries = firstAppearances d.rootNames := by
  obtain ⟨first, hfirst, hsections⟩ := root?_eq_some_iff.mp h
  have hpreamble : keysOf first = firstAppearances (d.preamble.map (·.path.root.text)) :=
    keysOf_foldlM (fun hstep => keysOf_assign? hstep) hfirst
  have hnew : ∀ earlier s later, d.sections = earlier ++ s :: later → s.header.kind = .table →
      s.header.path.parents = [] → s.header.path.root.text ∉ keysOf first ∧
        s.header.path.root.text ∉ earlier.map (·.header.path.root.text) := by
    intro earlier s later hsplit hkind hsingle
    have hnot := hlead earlier s later hsplit hkind hsingle
    rw [rootNames_eq, List.mem_append, not_or] at hnot
    rw [hpreamble, mem_firstAppearances]
    exact hnot
  rw [keysOf_foldlM_addTo? hsections hnew, hpreamble, rootNames_eq, firstAppearances,
    firstAppearances, List.foldl_append]

/-! ## The reader -/

/-- What the reader gives is the root table of the document that it read. -/
theorem read?_reader {text : String} {reading : Reading}
    (h : reader.read? text = some reading) :
    ∃ d, read? text.toList = some d ∧ d.root? = some reading.entries := by
  obtain ⟨d, hread, hd⟩ := Option.bind_eq_some_iff.mp h
  obtain ⟨entries, hroot, hreading⟩ := Option.bind_eq_some_iff.mp hd
  obtain rfl := Option.some.inj hreading
  exact ⟨d, hread, hroot⟩

/-- The root keys that a text names, if it is a document. -/
def namesOf (text : String) : List String := ((read? text.toList).map rootNames).getD []

/-- **Documents are read in order**, if no table is implied before its own header. -/
theorem inOrder_reader {text : String}
    (hlead : ∀ d, read? text.toList = some d → d.HeadersLead) : reader.InOrder namesOf text := by
  intro reading h
  obtain ⟨d, hread, hroot⟩ := read?_reader h
  rw [namesOf, hread]
  exact keysOf_root? hroot (hlead d hread)

/-- Where no root key is named twice, no table is implied before its own header. -/
theorem headersLead_of_nodup (h : d.rootNames.Nodup) : d.HeadersLead := by
  intro before s after hsections _ _ hmem
  have hnames : d.rootNames = rootNames ⟨d.preamble, before⟩ ++
      s.header.path.root.text :: after.map (·.header.path.root.text) := by
    simp [rootNames_eq, hsections]
  rw [hnames, List.nodup_append] at h
  exact h.2.2 _ hmem _ List.mem_cons_self rfl

end Document

end WindowDecor.Toml
