/-!
# File paths

A path is kept as the text it was given as, and compared by its components: repeated and trailing
slashes and the component `.` do not count, except that a relative path may begin with `.`.  Letter
case and `..` count, and a backslash is a letter like any other.

* `FilePath.components` — the decomposition.
* `FilePath.Same` — two spellings of one path.
-/

namespace WindowDecor

/-- A path, as spelled. -/
structure FilePath where
  text : String
  deriving DecidableEq

/-- What a path is made of. -/
inductive PathComponent where
  /-- The slash that an absolute path begins with. -/
  | root
  /-- The dot that a relative path may begin with. -/
  | here
  | named (name : List Char)
  deriving DecidableEq

namespace FilePath

/-- The parts of a spelling between its slashes. -/
def pieces (spelling : List Char) : List (List Char) := spelling.splitOn '/'

/-- Whether a part between slashes counts: it is neither empty nor a single dot. -/
def counts (piece : List Char) : Bool := piece != [] && piece != ['.']

/-- What a spelling begins with, other than a name. -/
def anchor : List Char → List PathComponent
  | '/' :: _ => [.root]
  | spelling => if (pieces spelling).head? = some ['.'] then [.here] else []

/-- The components of a path. -/
def components (p : FilePath) : List PathComponent :=
  anchor p.text.toList ++ ((pieces p.text.toList).filter counts).map .named

/-- Two spellings of one path. -/
def Same (p q : FilePath) : Prop := p.components = q.components

instance (p q : FilePath) : Decidable (p.Same q) := inferInstanceAs (Decidable (_ = _))

theorem Same.refl (p : FilePath) : p.Same p := rfl

theorem Same.symm {p q : FilePath} (h : p.Same q) : q.Same p := Eq.symm h

theorem Same.trans {p q r : FilePath} (h : p.Same q) (h' : q.Same r) : p.Same r := Eq.trans h h'

end FilePath

end WindowDecor
