import WindowDecor.Toml.Extent
import WindowDecor.Toml.Table

/-!
# Readers

Whoever takes settings from a text leaves it to a reader to tell what the text says.  Nothing is asked
of a reader here: what a text has to look like, and in which order the keys of its root table come, is
for the reader to know.

* `Reading` — what a reader makes of a document: the root table, and the places of its keys and
  values as users are shown them.
* `Reader` — a reader of texts, some of which are no documents.
-/

namespace WindowDecor.Toml

/-- What a reader makes of a document. -/
structure Reading where
  /-- The root table. -/
  entries : Entries
  /-- Where a root key stands. -/
  keyExcerpt : String → Excerpt
  /-- Where the value of a root key stands. -/
  valueExcerpt : String → Excerpt

/-- A reader of documents. -/
structure Reader where
  /-- What a text says, if it is a document. -/
  read? : String → Option Reading

end WindowDecor.Toml
