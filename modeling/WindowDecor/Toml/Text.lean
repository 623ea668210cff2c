import WindowDecor.Text.Numeral
import WindowDecor.Toml.Character

/-!
# Quoted texts

A text stands between double quotes, where a backslash begins an escape, or between apostrophes,
where every character stands for itself.  Tripled quotes let it run over several lines.

* `basic?`, `literal?` — the text behind an opening quote, up to the closing one.
* `multiBasic?`, `multiLiteral?` — the same behind tripled quotes.  A line break right behind them
  is dropped, and every other one counts as a line feed.  Up to two quotes may stand right before
  the closing three.
* `text?` — a quoted text of any kind.
-/

namespace WindowDecor.Toml

/-- The character with the given code point, unless that is a surrogate or too large. -/
def scalar? (n : Nat) : Option Char := if n.isValidChar then some (Char.ofNat n) else none

/-- The character whose code point is given by hexadecimal digits. -/
def codePoint? (digits : List Char) : Option Char := (Numeral.read? 16 digits).bind scalar?

/-- The character that a letter behind a backslash stands for. -/
def shortEscape? : Char → Option Char
  | 'b' => some '\x08'
  | 't' => some '\t'
  | 'n' => some '\n'
  | 'f' => some '\x0c'
  | 'r' => some '\r'
  | '"' => some '"'
  | '\\' => some '\\'
  | _ => none

/-- Puts a character in front of a text that was read. -/
def push? (c : Option Char) (read : Option (List Char × List Char)) :
    Option (List Char × List Char) :=
  match c, read with
  | some c, some (text, rest) => some (c :: text, rest)
  | _, _ => none

/-- The text up to the closing double quote. -/
def basic? : List Char → Option (List Char × List Char)
  | [] => none
  | '"' :: r => some ([], r)
  | '\\' :: 'u' :: a :: b :: c :: d :: r => push? (codePoint? [a, b, c, d]) (basic? r)
  | '\\' :: 'U' :: a :: b :: c :: d :: e :: f :: g :: h :: r =>
      push? (codePoint? [a, b, c, d, e, f, g, h]) (basic? r)
  | '\\' :: c :: r => push? (shortEscape? c) (basic? r)
  | c :: r => if isVisible c then push? (some c) (basic? r) else none

/-- The text up to the closing apostrophe. -/
def literal? : List Char → Option (List Char × List Char)
  | [] => none
  | '\x27' :: r => some ([], r)
  | c :: r => if isVisible c then push? (some c) (literal? r) else none

/-- Whether nothing but blanks is left of the line. -/
def endsLine (s : List Char) : Bool := (lineBreak? (skipBlanks s)).isSome

/-- The text up to the closing double quotes.  A backslash at the end of a line takes the line break
away, with all blanks and line breaks behind it; `skipping` says that this is under way. -/
def multiBasic? (skipping : Bool) : List Char → Option (List Char × List Char)
  | [] => none
  | '"' :: '"' :: '"' :: '"' :: '"' :: r => some (['"', '"'], r)
  | '"' :: '"' :: '"' :: '"' :: r => some (['"'], r)
  | '"' :: '"' :: '"' :: r => some ([], r)
  | '\n' :: r => if skipping then multiBasic? true r else push? (some '\n') (multiBasic? false r)
  | '\r' :: '\n' :: r =>
      if skipping then multiBasic? true r else push? (some '\n') (multiBasic? false r)
  | '\\' :: 'u' :: a :: b :: c :: d :: r => push? (codePoint? [a, b, c, d]) (multiBasic? false r)
  | '\\' :: 'U' :: a :: b :: c :: d :: e :: f :: g :: h :: r =>
      push? (codePoint? [a, b, c, d, e, f, g, h]) (multiBasic? false r)
  | '\\' :: c :: r =>
      if endsLine (c :: r) then multiBasic? true (c :: r)
      else push? (shortEscape? c) (multiBasic? false r)
  | c :: r =>
      if skipping && isBlank c then multiBasic? true r
      else if isVisible c then push? (some c) (multiBasic? false r)
      else none

/-- The text up to the closing apostrophes. -/
def multiLiteral? : List Char → Option (List Char × List Char)
  | [] => none
  | '\x27' :: '\x27' :: '\x27' :: '\x27' :: '\x27' :: r => some (['\x27', '\x27'], r)
  | '\x27' :: '\x27' :: '\x27' :: '\x27' :: r => some (['\x27'], r)
  | '\x27' :: '\x27' :: '\x27' :: r => some ([], r)
  | '\n' :: r => push? (some '\n') (multiLiteral? r)
  | '\r' :: '\n' :: r => push? (some '\n') (multiLiteral? r)
  | c :: r => if isVisible c then push? (some c) (multiLiteral? r) else none

/-- What follows a line break, or everything if there is none. -/
def dropLineBreak (s : List Char) : List Char := (lineBreak? s).getD s

/-- A quoted text. -/
def text? : List Char → Option (List Char × List Char)
  | '"' :: '"' :: '"' :: r => multiBasic? false (dropLineBreak r)
  | '"' :: r => basic? r
  | '\x27' :: '\x27' :: '\x27' :: r => multiLiteral? (dropLineBreak r)
  | '\x27' :: r => literal? r
  | _ => none

end WindowDecor.Toml
