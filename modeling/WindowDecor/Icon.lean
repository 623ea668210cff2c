/-!
# Icons

A window shows a big icon (when switching between windows) and a small one (in its title bar).
Icons come in pairs out of a program's file, and either half of a pair may be missing.

* `IconHandle` — a handle that is not null; `IconHandle.ofRaw?` turns the null handle into "no
  icon".
* `IconPair.assignments` — the icons of a pair with the slots they go to, big before small.
* `IconCache` — what has been loaded: nothing yet, or the pair of the latest load.  A load that
  finds no icons is still a load.
-/

namespace WindowDecor

/-- An icon's number, which is never the null handle. -/
structure IconHandle where
  raw : Int64
  ne_null : raw ≠ 0
  deriving DecidableEq

/-- The icon with the given number; the null handle is no icon. -/
def IconHandle.ofRaw? (raw : Int64) : Option IconHandle :=
  if h : raw ≠ 0 then some ⟨raw, h⟩ else none

/-- The slots of a window that hold icons. -/
inductive IconClass where
  | big
  | small
  deriving DecidableEq

/-- The large and the small icon of a program, as far as it has them. -/
structure IconPair where
  large : Option IconHandle
  small : Option IconHandle
  deriving DecidableEq

namespace IconPair

/-- Neither icon. -/
def empty : IconPair := ⟨none, none⟩

/-- The pair with the given numbers. -/
def ofRaw (large small : Int64) : IconPair := ⟨IconHandle.ofRaw? large, IconHandle.ofRaw? small⟩

/-- Whether a pair has neither icon. -/
def isEmpty (p : IconPair) : Bool := p.large.isNone && p.small.isNone

/-- Each icon of the pair with its slot: the large icon is the big one. -/
def assignments (p : IconPair) : List (IconClass × IconHandle) :=
  (p.large.map (IconClass.big, ·)).toList ++ (p.small.map (IconClass.small, ·)).toList

end IconPair

/-- What comes out of a program's file: the number of icons that were found, and the pair that was
taken.  The number need not be that of the icons in the pair. -/
structure ExtractedIcons where
  count : UInt32
  icons : IconPair
  deriving DecidableEq

/-- What comes out of a file without icons. -/
def ExtractedIcons.nothing : ExtractedIcons := ⟨0, .empty⟩

/-- The icons at hand. -/
inductive IconCache where
  | notLoaded
  | loaded (icons : IconPair)
  deriving DecidableEq

namespace IconCache

/-- Whether there was a load, with icons or without. -/
def isLoaded : IconCache → Bool
  | .notLoaded => false
  | .loaded _ => true

@[simp] theorem isLoaded_notLoaded : notLoaded.isLoaded = false := rfl

@[simp] theorem isLoaded_loaded (icons : IconPair) : (loaded icons).isLoaded = true := rfl

/-- The pair of the latest load, if there was one. -/
def icons? : IconCache → Option IconPair
  | .notLoaded => none
  | .loaded icons => some icons

/-- A new pair takes the place of whatever was there. -/
def store (_ : IconCache) (icons : IconPair) : IconCache := .loaded icons

/-- What was there before makes no difference. -/
@[simp] theorem store_eq (c : IconCache) (icons : IconPair) : c.store icons = .loaded icons := rfl

/-- The cache, and what it is after each of a list of stores. -/
def storeEach (c : IconCache) : List IconPair → List IconCache
  | [] => [c]
  | icons :: rest => c :: (c.store icons).storeEach rest

/-- The icons to assign: those of the loaded pair, and none before the first load. -/
def assignments (c : IconCache) : List (IconClass × IconHandle) :=
  (c.icons?.map IconPair.assignments).getD []

end IconCache

end WindowDecor
