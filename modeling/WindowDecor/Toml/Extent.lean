import WindowDecor.Text.Numeral

/-!
# Places in a text

A place in a text is known by what follows it.  A reader that consumes characters from the front has
this at hand at every step, so it need not count.

* `Extent` — a stretch of a text: what follows its first place and what follows its last.
* `Excerpt` — a stretch as it is shown to a user: the line that it begins on, the column, and how
  many carets to put under it.
-/

namespace WindowDecor.Toml

/-- A stretch of a text. -/
structure Extent where
  /-- The text from the stretch on. -/
  start : List Char
  /-- The text behind the stretch. -/
  stop : List Char
  deriving DecidableEq

/-- A stretch as it is shown. -/
structure Excerpt where
  /-- The number of the line that the stretch begins on, from one. -/
  line : Nat
  /-- The number of the character that it begins at, from one. -/
  column : Nat
  /-- The line, without the line feed. -/
  text : List Char
  carets : Nat
  deriving DecidableEq

/-- The length of a text in UTF-8. -/
def byteLength (text : List Char) : Nat := (text.flatMap String.utf8EncodeChar).length

namespace Excerpt

/-- A stretch of `source`.  There is one caret for each of its bytes, at least one, and no more than
what its first line has left. -/
def ofExtent (source : List Char) (e : Extent) : Excerpt :=
  let before := source.take (source.length - e.start.length)
  let lineBefore := (before.reverse.takeWhile (· ≠ '\n')).reverse
  let text := lineBefore ++ e.start.takeWhile (· ≠ '\n')
  let covered := e.start.take (e.start.length - e.stop.length)
  { line := before.count '\n' + 1
    column := lineBefore.length + 1
    text
    carets := max 1 (min (byteLength covered) (byteLength text - lineBefore.length)) }

/-- The excerpt with a reason below it, behind a gutter with the number of the line. -/
def render (e : Excerpt) (reason : String) : String :=
  let line := Numeral.decimal e.line
  let gutter := String.ofList (List.replicate line.length ' ') ++ " |"
  let carets := String.ofList (List.replicate e.column ' ' ++ List.replicate e.carets '^')
  "TOML parse error at line " ++ line ++ ", column " ++ Numeral.decimal e.column ++ "\n" ++
    gutter ++ "\n" ++
    line ++ " | " ++ String.ofList e.text ++ "\n" ++
    gutter ++ carets ++ "\n" ++
    reason ++ "\n"

end Excerpt

end WindowDecor.Toml
