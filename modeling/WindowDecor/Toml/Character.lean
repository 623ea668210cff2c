/-!
# The characters of a document

Which characters a document may hold, and which of them make up its parts.  Readers in this folder
consume a list of characters from the front and give back what is left.

* `isBlank`, `isVisible` — blanks within a line, and what may stand in a line at all.
* `isBareKeyChar`, `isWordChar` — what unquoted keys, and unquoted values, are made of.
* `skipBlanks`, `lineBreak?`, `lineEnd?` — the end of a line, with a comment before it if there is
  one.
* `skipGaps?` — blanks, comments and line breaks, as they may stand between elements of an array.
-/

namespace WindowDecor.Toml

/-- A space or a tab. -/
def isBlank (c : Char) : Bool := c == ' ' || c == '\t'

/-- A character that may stand in a line: a tab, or anything that is no ASCII control. -/
def isVisible (c : Char) : Bool := c == '\t' || (' ' ≤ c && c != '\x7f')

/-- An ASCII letter or digit, an underscore or a dash. -/
def isBareKeyChar (c : Char) : Bool := c.isAlphanum || c == '_' || c == '-'

/-- A character of a number, of a date or of a word. -/
def isWordChar (c : Char) : Bool := isBareKeyChar c || c == '+' || c == '.' || c == ':'

/-- What follows a run of blanks. -/
def skipBlanks (s : List Char) : List Char := s.dropWhile isBlank

/-- What follows a line break, if the text begins with one.  A carriage return alone is none. -/
def lineBreak? : List Char → Option (List Char)
  | '\n' :: r => some r
  | '\r' :: '\n' :: r => some r
  | _ => none

/-- What follows a comment, if the text begins with one. -/
def skipComment : List Char → List Char
  | '#' :: r => r.dropWhile isVisible
  | s => s

/-- What follows the rest of a line that holds nothing more than blanks and a comment. -/
def lineEnd? (s : List Char) : Option (List Char) :=
  match skipComment (skipBlanks s) with
  | [] => some []
  | s => lineBreak? s

/-- What follows blanks, line breaks and comments; `inComment` says whether a comment is open. -/
def skipGaps? (inComment : Bool) : List Char → Option (List Char)
  | [] => some []
  | '\n' :: r => skipGaps? false r
  | '\r' :: '\n' :: r => skipGaps? false r
  | c :: r =>
      if inComment then
        if isVisible c then skipGaps? true r else none
      else if isBlank c then skipGaps? false r
      else if c = '#' then skipGaps? true r
      else some (c :: r)

end WindowDecor.Toml
