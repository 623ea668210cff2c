/-!
# Values and tables

What a document says is a tree of values.  Tables come about in four ways, and how a table came
about decides what may still be added to it.

* `Value`, `TableOrigin` — values, and the ways in which tables come about.
* `changeKey?` — one entry of a table is changed, or put at the end if it was not there.
* `changeAt?` — the table at the end of a path is changed; tables on the way that do not exist come
  about by being named.
* `assign?`, `openTable?`, `openElement?` — what an assignment, a table header and an array header
  do.  **Nothing is ever defined twice**: each of them fails rather than touch what is there.
-/

namespace WindowDecor.Toml

/-- How a table came about. -/
inductive TableOrigin where
  /-- Written out between braces.  Nothing can be added to it. -/
  | inline
  /-- By a header of its own. -/
  | header
  /-- By being named on the way to another header.  Its own header may still come. -/
  | implied
  /-- By being named in a dotted key.  Only dotted keys of the same table add to it. -/
  | dotted
  deriving DecidableEq

/-- A value. -/
inductive Value where
  | text (value : String)
  | integer (value : Int)
  | float (value : Float)
  | boolean (value : Bool)
  /-- A date or a time, as written. -/
  | moment (spelling : List Char)
  | array (elements : List Value)
  | table (origin : TableOrigin) (entries : List (String × Value))
  /-- A list of tables with a header each.  What follows the latest header adds to its table. -/
  | tables (earlier : List (List (String × Value))) (latest : List (String × Value))

/-- The keys of a table with their values, in order of appearance. -/
abbrev Entries := List (String × Value)

/-- Changes the entry with the given key.  The change is told what is there, and a new entry is put
at the end. -/
def changeKey? (key : String) (change : Option Value → Option Value) : Entries → Option Entries
  | [] => (change none).map fun value => [(key, value)]
  | (k, value) :: rest =>
      if k = key then (change (some value)).map fun value => (k, value) :: rest
      else (changeKey? key change rest).map ((k, value) :: ·)

/-- Changes the table that a path leads to, starting in a table of the given origin.  Tables that are
missing on the way are made, and a list of tables leads to its latest.  The path of a header leads
through every table that is not inline, and a dotted key only through those that have no header of
their own. -/
def changeAt? (dotted : Bool) (change : TableOrigin → Entries → Option Entries) :
    List String → TableOrigin → Entries → Option Entries
  | [], origin, entries => change origin entries
  | key :: path, _, entries =>
      changeKey? key (fun
        | none =>
            let origin := if dotted then .dotted else .implied
            (changeAt? dotted change path origin []).map (.table origin)
        | some (.table origin inner) =>
            if origin = .inline ∨ dotted ∧ origin = .header then none
            else (changeAt? dotted change path origin inner).map (.table origin)
        | some (.tables earlier latest) =>
            (changeAt? dotted change path .header latest).map (.tables earlier)
        | some _ => none) entries

/-- A table with one more entry.  The key must be new, and a table is added to by dotted keys if and
only if it came about by them. -/
def addKey? (dotted : Bool) (key : String) (value : Value) (origin : TableOrigin)
    (entries : Entries) : Option Entries :=
  if dotted = (origin = .dotted) ∧ ∀ entry ∈ entries, entry.1 ≠ key then
    some (entries ++ [(key, value)])
  else none

/-- What an assignment to the key `key`, behind the dotted keys `path`, makes of a table. -/
def assign? (path : List String) (key : String) (value : Value) (origin : TableOrigin)
    (entries : Entries) : Option Entries :=
  changeAt? true (addKey? (!path.isEmpty) key value) path origin entries

/-- What a table header makes of the table that it is in.  A table that was only implied so far
takes its place now, with what it holds. -/
def openTable? (key : String) (entries : Entries) : Option Entries :=
  match entries.lookup key with
  | none => some (entries ++ [(key, .table .header [])])
  | some (.table .implied inner) =>
      some (entries.filter (·.1 ≠ key) ++ [(key, .table .header inner)])
  | some _ => none

/-- What an array header makes of the table that it is in: one more table in a list of tables. -/
def openElement? (key : String) (entries : Entries) : Option Entries :=
  changeKey? key (fun
    | none => some (.tables [] [])
    | some (.tables earlier latest) => some (.tables (earlier ++ [latest]) [])
    | some _ => none) entries

end WindowDecor.Toml
