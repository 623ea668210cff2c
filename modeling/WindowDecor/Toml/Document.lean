import WindowDecor.Toml.Reader
import WindowDecor.Toml.Value

/-!
# Documents

A document is a list of lines, each an assignment, a header or nothing.  The assignments behind a
header make up its section, and those before the first header belong to the root table.

* `Document.read?` — the document that a text is, if it is one.  An optional byte order mark comes
  first.
* `Document.root?` — the root table, if nothing is defined twice.
* `Document.valueExtent?`, `Document.keyExtent?` — where in the text a root key has its value, and
  where the key itself stands.
* **`Document.reader`** — the reader that all of this makes.
-/

namespace WindowDecor.Toml

/-- A key and its value. -/
structure Assignment where
  path : KeyPath
  value : Value
  /-- Where the value stands. -/
  extent : Extent

/-- What a header opens. -/
inductive HeaderKind where
  /-- A table. -/
  | table
  /-- One more table in a list of tables. -/
  | element
  deriving DecidableEq

/-- The header of a section. -/
structure Header where
  kind : HeaderKind
  path : KeyPath
  /-- Where the header stands, with its brackets. -/
  extent : Extent

/-- A header and the assignments behind it. -/
structure Section where
  header : Header
  assignments : List Assignment

/-- The assignments before the first header, and the sections. -/
structure Document where
  preamble : List Assignment
  sections : List Section

/-- A line that says something. -/
inductive Line where
  | assignment (a : Assignment)
  | header (h : Header)

namespace Document

/-- The document with the given lines. -/
def ofLines : List Line → Document
  | [] => ⟨[], []⟩
  | .assignment a :: lines =>
      let d := ofLines lines
      ⟨a :: d.preamble, d.sections⟩
  | .header h :: lines =>
      let d := ofLines lines
      ⟨[], ⟨h, d.preamble⟩ :: d.sections⟩

end Document

/-! ## Reading -/

/-- An assignment, and the lines behind it. -/
def assignment? (s : List Char) : Option (Assignment × List Char) := do
  match ← keyPath? maxKeyParts s with
  | (path, '=' :: r) =>
      let start := skipBlanks r
      let (value, stop) ← value? maxDepth start
      let rest ← lineEnd? stop
      some (⟨path, value, ⟨start, stop⟩⟩, rest)
  | _ => none

/-- A header, and the lines behind it. -/
def header? : List Char → Option (Header × List Char)
  | s@('[' :: '[' :: r) => do
      match ← keyPath? maxKeyParts r with
      | (path, ']' :: ']' :: stop) =>
          let rest ← lineEnd? stop
          some (⟨.element, path, ⟨s, stop⟩⟩, rest)
      | _ => none
  | s@('[' :: r) => do
      match ← keyPath? maxKeyParts r with
      | (path, ']' :: stop) =>
          let rest ← lineEnd? stop
          some (⟨.table, path, ⟨s, stop⟩⟩, rest)
      | _ => none
  | _ => none

/-- What the first line says, if anything, and the lines behind it. -/
def line? (s : List Char) : Option (Option Line × List Char) :=
  match lineEnd? s with
  | some rest => some (none, rest)
  | none =>
      match skipBlanks s with
      | '[' :: r => (header? ('[' :: r)).map fun (h, rest) => (some (.header h), rest)
      | s => (assignment? s).map fun (a, rest) => (some (.assignment a), rest)

/-- All lines that say something.  A text has no more lines than characters. -/
def lines? : Nat → List Char → Option (List Line)
  | _, [] => some []
  | 0, _ => none
  | rounds + 1, s => do
      let (line, rest) ← line? s
      let lines ← lines? rounds rest
      some (line.toList ++ lines)

/-- A text without the byte order mark that it may begin with. -/
def dropByteOrderMark : List Char → List Char
  | '\uFEFF' :: s => s
  | s => s

/-- The document that a text is. -/
def Document.read? (source : List Char) : Option Document :=
  let s := dropByteOrderMark source
  (lines? s.length s).map .ofLines

/-! ## The root table -/

/-- Adds a section's assignment to the root table. -/
def Section.assign? (header : Header) (entries : Entries) (a : Assignment) : Option Entries :=
  changeAt? false (Toml.assign? a.path.parentTexts a.path.last.text a.value) header.path.texts
    .header entries

/-- Opens the table of a header. -/
def Header.open? (h : Header) (entries : Entries) : Option Entries :=
  let change := match h.kind with
    | .table => openTable? h.path.last.text
    | .element => openElement? h.path.last.text
  changeAt? false (fun _ => change) h.path.parentTexts .header entries

/-- Adds a section to the root table. -/
def Section.addTo? (entries : Entries) (s : Section) : Option Entries := do
  s.assignments.foldlM (Section.assign? s.header) (← s.header.open? entries)

/-- The root table with its keys in order of appearance; a table that only got its header after it
had been implied appears where its header is. -/
def Document.root? (d : Document) : Option Entries := do
  let entries ← d.preamble.foldlM (fun entries a =>
    Toml.assign? a.path.parentTexts a.path.last.text a.value .header entries) []
  d.sections.foldlM Section.addTo? entries

/-! ## Where things stand -/

/-- A section from its header to the end of its last value. -/
def Section.extent (s : Section) : Extent :=
  match s.assignments.getLast? with
  | none => s.header.extent
  | some a => ⟨s.header.extent.start, a.extent.stop⟩

namespace Document

/-- The first keys of all assignments to the root table and of all headers. -/
def rootParts (d : Document) : List KeyPart :=
  d.preamble.map (·.path.root) ++ d.sections.map (·.header.path.root)

/-- Where a root key stands: in its header if it has one, else where it appears first. -/
def keyExtent? (d : Document) (key : String) : Option Extent :=
  let headers := d.sections.filter fun s => s.header.kind = .table ∧ s.header.path.isSingle key
  let first := d.rootParts.find? (·.text = key)
  ((headers.head?.map (·.header.path.last)).or first).map (·.extent)

/-- Where the value of a root key stands: a value behind the key, or all sections of the key from
the first header on.  A table without a header has no place of its own, and then it is the key's. -/
def valueExtent? (d : Document) (key : String) : Option Extent :=
  let assigned := (d.preamble.find? (·.path.isSingle key)).map (·.extent)
  let extents := (d.sections.filter (·.header.path.isSingle key)).map (·.extent)
  let sections : Option Extent := do some ⟨(← extents.head?).start, (← extents.getLast?).stop⟩
  assigned.or (sections.or (d.keyExtent? key))

/-- A stretch of a text as it is shown, or the beginning of the text if there is none. -/
def excerpt (source : List Char) (extent : Option Extent) : Excerpt :=
  .ofExtent source (extent.getD ⟨source, source⟩)

/-! ## The reader -/

/-- The reader that takes a text for a document if each of its lines says something that can be
understood, and nothing is defined twice. -/
def reader : Reader where
  read? text := do
    let source := text.toList
    let d ← read? source
    let entries ← d.root?
    some
      { entries
        keyExcerpt := fun key => excerpt source (d.keyExtent? key)
        valueExcerpt := fun key => excerpt source (d.valueExtent? key) }

end Document

end WindowDecor.Toml
