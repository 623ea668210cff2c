import WindowDecor.Toml.Extent
import WindowDecor.Toml.Text

/-!
# Keys

A key is bare or quoted, and keys joined by dots make a path.

* `KeyPart`, `KeyPath` — a key with the place where it stands, and keys joined by dots.
* `keyPart?`, `keyPath?` — reading them.  A path has fewer than eighty parts.
-/

namespace WindowDecor.Toml

/-- One key. -/
structure KeyPart where
  text : String
  /-- Where the key stands, with its quotes. -/
  extent : Extent
  deriving DecidableEq

/-- Keys joined by dots. -/
structure KeyPath where
  /-- All keys but the last. -/
  parents : List KeyPart
  last : KeyPart
  deriving DecidableEq

namespace KeyPath

/-- The first key. -/
def root (p : KeyPath) : KeyPart := p.parents.headD p.last

/-- The texts of all keys but the last. -/
def parentTexts (p : KeyPath) : List String := p.parents.map (·.text)

/-- The texts of all keys. -/
def texts (p : KeyPath) : List String := p.parentTexts ++ [p.last.text]

/-- Whether this is the key `key` alone. -/
def isSingle (p : KeyPath) (key : String) : Bool := p.parents.isEmpty && p.last.text == key

end KeyPath

/-- The text of a key, and what follows it. -/
def keyText? : List Char → Option (List Char × List Char)
  | '"' :: r => basic? r
  | '\x27' :: r => literal? r
  | s =>
      let name := s.takeWhile isBareKeyChar
      if name.isEmpty then none else some (name, s.dropWhile isBareKeyChar)

/-- A key, and what follows it. -/
def keyPart? (s : List Char) : Option (KeyPart × List Char) :=
  (keyText? s).map fun (text, rest) => (⟨String.ofList text, ⟨s, rest⟩⟩, rest)

/-- The largest number of keys in a path. -/
def maxKeyParts : Nat := 79

/-- A path of at most `limit` keys, with blanks around each of them, and what follows. -/
def keyPath? (limit : Nat) (s : List Char) : Option (KeyPath × List Char) :=
  match limit with
  | 0 => none
  | limit + 1 => do
      let (part, r) ← keyPart? (skipBlanks s)
      match skipBlanks r with
      | '.' :: r => do
          let (path, r) ← keyPath? limit r
          some (⟨part :: path.parents, path.last⟩, r)
      | r => some (⟨[], part⟩, r)

end WindowDecor.Toml
