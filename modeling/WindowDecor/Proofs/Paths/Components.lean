import Mathlib.Logic.Relation
import WindowDecor.FilePath

/-!
# Which spellings are spellings of one path

A spelling is its parts with slashes between them (`join_pieces`), and two spellings put together with
a slash are their parts one after the other (`pieces_join`).  All else is about lists of parts.

* `FilePath.names`, `FilePath.IsAbsolute`, `FilePath.LeadsWithDot` — what counts of a spelling, said
  of its text, and **`FilePath.same_iff`** that this is all that counts.
* `FilePath.Respelled` — one slash too many, or one dot.
* **`FilePath.same_iff_respelled`** — spellings of one path are those that lead to each other by such
  changes.
* `FilePath.Alike`, `FilePath.Same.alike` — what cannot differ between them.
-/

namespace WindowDecor

/-- How a component is written where others may follow after a slash. -/
def PathComponent.spelling : PathComponent → List Char
  | .root => ['/', '.']
  | .here => ['.']
  | .named name => name

/-- The name in a component. -/
def PathComponent.name? : PathComponent → Option (List Char)
  | .named name => some name
  | _ => none

namespace FilePath

/-! ## Parts -/

/-- Parts with slashes between them. -/
def join (parts : List (List Char)) : List Char := ['/'].intercalate parts

@[simp] theorem join_singleton (part : List Char) : join [part] = part := List.intercalate_singleton

@[simp] theorem join_cons_cons (part next : List Char) (parts : List (List Char)) :
    join (part :: next :: parts) = part ++ '/' :: join (next :: parts) := by
  simp [join]

/-- Parts may be put together from the left. -/
theorem join_glue (part next : List Char) (parts : List (List Char)) :
    join ((part ++ '/' :: next) :: parts) = join (part :: next :: parts) := by
  rw [join_cons_cons]
  cases parts with
  | nil => rw [join_singleton, join_singleton]
  | cons last rest => rw [join_cons_cons, join_cons_cons, List.append_assoc, List.cons_append]

/-- **A spelling is its parts with slashes between them.** -/
@[simp] theorem join_pieces (spelling : List Char) : join (pieces spelling) = spelling :=
  List.intercalate_splitOn '/'

theorem pieces_ne_nil (spelling : List Char) : pieces spelling ≠ [] := List.splitOn_ne_nil '/' spelling

theorem exists_pieces_eq (spelling : List Char) : ∃ part parts, pieces spelling = part :: parts :=
  List.exists_cons_of_ne_nil (pieces_ne_nil spelling)

/-- **A slash between two spellings puts the parts of one after those of the other.** -/
theorem pieces_join (a b : List Char) : pieces (a ++ '/' :: b) = pieces a ++ pieces b :=
  List.splitOn_append_cons_self a b

theorem not_counts_empty : ¬ counts [] := by decide

theorem not_counts_dot : ¬ counts ['.'] := by decide

/-- Only empty parts and single dots do not count. -/
theorem eq_of_not_counts {part : List Char} (h : ¬ counts part) : part = [] ∨ part = ['.'] := by
  simp only [counts, Bool.and_eq_true, bne_iff_ne] at h
  grind

/-- A part that does not count has no slash in it. -/
theorem pieces_of_not_counts {part : List Char} (h : ¬ counts part) : pieces part = [part] := by
  rcases eq_of_not_counts h with rfl | rfl <;> rfl

/-! ## What counts -/

/-- What a list of parts begins with, other than a name. -/
def start : List (List Char) → List PathComponent
  | [] :: _ :: _ => [.root]
  | part :: _ => if part = ['.'] then [.here] else []
  | [] => []

/-- Where a spelling starts is told by its parts. -/
theorem anchor_eq_start (spelling : List Char) : anchor spelling = start (pieces spelling) := by
  obtain ⟨part, parts, hpieces⟩ := exists_pieces_eq spelling
  unfold anchor
  split
  · next rest =>
    rw [← List.nil_append ('/' :: rest), pieces_join]
    obtain ⟨next, parts, hrest⟩ := exists_pieces_eq rest
    rw [hrest]
    rfl
  · next hslash =>
    simp only [hpieces, List.head?_cons, Option.some_inj]
    match part, parts with
    | [], [] => rfl
    | [], next :: parts =>
      -- such a spelling begins with a slash
      have htext := join_pieces spelling
      rw [hpieces, join_cons_cons] at htext
      exact absurd htext.symm (hslash _)
    | c :: cs, parts => rfl

/-- The start of a spelling is not changed by what comes after a slash. -/
theorem start_append {part : List Char} {parts : List (List Char)} (h : part :: parts ≠ [[]])
    (more : List (List Char)) : start (part :: parts ++ more) = start (part :: parts) := by
  match part, parts with
  | [], [] => exact absurd rfl h
  | [], next :: parts => rfl
  | c :: cs, parts => rfl

/-- The parts of a path that count, in order. -/
def names (p : FilePath) : List (List Char) := (pieces p.text.toList).filter counts

/-- The path begins at the root. -/
def IsAbsolute (p : FilePath) : Prop := ∃ rest, p.text = "/" ++ rest

/-- The path begins with a dot of its own. -/
def LeadsWithDot (p : FilePath) : Prop := p.text = "." ∨ ∃ rest, p.text = "./" ++ rest

/-- A path starts at the root just when its spelling has a slash in front. -/
theorem anchor_eq_root_iff (spelling : List Char) :
    anchor spelling = [.root] ↔ ∃ rest, spelling = '/' :: rest := by
  unfold anchor
  split
  · simp
  · next hslash =>
    refine ⟨fun h => ?_, fun ⟨rest, hrest⟩ => (hslash rest hrest).elim⟩
    split at h <;> cases h

/-- A path starts at the current directory just when its spelling has a single dot in front. -/
theorem anchor_eq_here_iff (spelling : List Char) :
    anchor spelling = [.here] ↔ spelling = ['.'] ∨ ∃ rest, spelling = '.' :: '/' :: rest := by
  rw [anchor_eq_start]
  constructor
  · intro h
    have htext := join_pieces spelling
    obtain ⟨part, parts, hpieces⟩ := exists_pieces_eq spelling
    rw [hpieces] at h htext
    obtain rfl : part = ['.'] := by
      unfold start at h
      split at h <;> simp_all
    cases parts with
    | nil => exact .inl htext.symm
    | cons next rest => exact .inr ⟨_, htext.symm.trans (join_cons_cons _ _ _)⟩
  · rintro (rfl | ⟨rest, rfl⟩)
    · rfl
    · exact congrArg start (pieces_join ['.'] rest)

theorem isAbsolute_iff (p : FilePath) : p.IsAbsolute ↔ anchor p.text.toList = [.root] := by
  rw [anchor_eq_root_iff, IsAbsolute]
  constructor
  · rintro ⟨rest, hrest⟩
    exact ⟨rest.toList, by simp [hrest]⟩
  · rintro ⟨rest, hrest⟩
    exact ⟨.ofList rest, by simp [← String.toList_inj, hrest]⟩

theorem leadsWithDot_iff (p : FilePath) : p.LeadsWithDot ↔ anchor p.text.toList = [.here] := by
  rw [anchor_eq_here_iff, LeadsWithDot]
  refine or_congr ?_ ⟨?_, ?_⟩
  · rw [← String.toList_inj]
    rfl
  · rintro ⟨rest, hrest⟩
    exact ⟨rest.toList, by simp [hrest]⟩
  · rintro ⟨rest, hrest⟩
    exact ⟨.ofList rest, by simp [← String.toList_inj, hrest]⟩

/-- A path starts at the root, at the current directory or with a name. -/
theorem anchor_cases (spelling : List Char) :
    anchor spelling = [.root] ∨ anchor spelling = [.here] ∨ anchor spelling = [] := by
  unfold anchor
  split
  · exact .inl rfl
  · split
    · exact .inr (.inl rfl)
    · exact .inr (.inr rfl)

theorem components_eq (p : FilePath) :
    p.components = anchor p.text.toList ++ p.names.map .named := rfl

@[simp] theorem filterMap_name?_components (p : FilePath) :
    p.components.filterMap PathComponent.name? = p.names := by
  have hanchor : (anchor p.text.toList).filterMap PathComponent.name? = [] := by
    rcases anchor_cases p.text.toList with h | h | h <;> rw [h] <;> rfl
  have hnames : (p.names.map PathComponent.named).filterMap PathComponent.name? = p.names := by
    rw [List.filterMap_map]
    exact List.filterMap_some
  rw [components_eq, List.filterMap_append, hanchor, hnames, List.nil_append]

/-- Two spellings are spellings of one path if they begin alike and have the same names. -/
theorem same_iff_anchor {p q : FilePath} :
    p.Same q ↔ anchor p.text.toList = anchor q.text.toList ∧ p.names = q.names := by
  constructor
  · intro h
    have hnames : p.names = q.names := by
      rw [← filterMap_name?_components, ← filterMap_name?_components, h]
    refine ⟨?_, hnames⟩
    rw [Same, components_eq, components_eq, hnames] at h
    exact List.append_cancel_right h
  · rintro ⟨hanchor, hnames⟩
    rw [Same, components_eq, components_eq, hanchor, hnames]

/-- **All that counts of a spelling**: whether it begins with a slash, whether it begins with a dot
of its own, and the parts other than dots, in order and letter by letter. -/
theorem same_iff {p q : FilePath} : p.Same q ↔
    (p.IsAbsolute ↔ q.IsAbsolute) ∧ (p.LeadsWithDot ↔ q.LeadsWithDot) ∧ p.names = q.names := by
  rw [same_iff_anchor, ← and_assoc, isAbsolute_iff, isAbsolute_iff, leadsWithDot_iff,
    leadsWithDot_iff]
  refine and_congr_left fun _ => ⟨fun h => by simp [h], ?_⟩
  rcases anchor_cases p.text.toList with hp | hp | hp <;>
    rcases anchor_cases q.text.toList with hq | hq | hq <;> simp [hp, hq]

example : Same ⟨"/a/./b//"⟩ ⟨"//a/b/."⟩ ∧ Same ⟨"./a"⟩ ⟨".//./a/"⟩ ∧ ¬ Same ⟨"./a"⟩ ⟨"a"⟩ := by
  decide

/-! ## Changes that do not count -/

/-- One spelling of a path, and another with a slash or a dot that does not count. -/
inductive Respelled : FilePath → FilePath → Prop
  | slash (a b : String) : Respelled ⟨a ++ "/" ++ b⟩ ⟨a ++ "//" ++ b⟩
  | dot (a b : String) : Respelled ⟨a ++ "/" ++ b⟩ ⟨a ++ "/./" ++ b⟩
  | lastSlash (a : String) (h : a ≠ "") : Respelled ⟨a⟩ ⟨a ++ "/"⟩
  | lastDot (a : String) (h : a ≠ "") : Respelled ⟨a⟩ ⟨a ++ "/."⟩

/-- A part that does not count makes no difference where others stand before it. -/
theorem same_of_pieces {p q : FilePath} {before after : List (List Char)} {part : List Char}
    (hpart : ¬ counts part) (hbefore : before ≠ []) (hempty : before ++ after ≠ [[]])
    (hp : pieces p.text.toList = before ++ after)
    (hq : pieces q.text.toList = before ++ part :: after) : p.Same q := by
  rw [same_iff_anchor, anchor_eq_start, anchor_eq_start, names, names, hp, hq]
  refine ⟨?_, by simp [hpart]⟩
  obtain ⟨first, rest, rfl⟩ := List.exists_cons_of_ne_nil hbefore
  by_cases hfirst : first :: rest = [[]]
  · -- both begin with a slash
    obtain ⟨rfl, rfl⟩ := List.cons.inj hfirst
    cases after with
    | nil => exact absurd rfl hempty
    | cons next rest => rfl
  · rw [start_append hfirst, start_append hfirst]

/-- Only the empty spelling has the empty part alone. -/
theorem pieces_eq_empty_iff {spelling : List Char} : pieces spelling = [[]] ↔ spelling = [] := by
  constructor
  · intro h
    rw [← join_pieces spelling, h, join_singleton]
  · rintro rfl
    rfl

section

variable {p q : FilePath} {part : List Char}

/-- A part that does not count may stand between two slashes. -/
theorem same_inside (a b : List Char) (hpart : ¬ counts part) (hp : p.text.toList = a ++ '/' :: b)
    (hq : q.text.toList = a ++ '/' :: (part ++ '/' :: b)) : p.Same q := by
  have hempty : pieces a ++ pieces b ≠ [[]] := by
    obtain ⟨first, rest, ha⟩ := exists_pieces_eq a
    obtain ⟨next, more, hb⟩ := exists_pieces_eq b
    simp [ha, hb]
  refine same_of_pieces hpart (pieces_ne_nil a) hempty ?_ ?_
  · rw [hp, pieces_join]
  · rw [hq, pieces_join, pieces_join, pieces_of_not_counts hpart, List.singleton_append]

/-- A part that does not count may stand at the end of a spelling that is not empty. -/
theorem same_at_end {a : List Char} (ha : a ≠ []) (hpart : ¬ counts part) (hp : p.text.toList = a)
    (hq : q.text.toList = a ++ '/' :: part) : p.Same q := by
  have hempty : pieces a ++ [] ≠ [[]] := by simpa [pieces_eq_empty_iff] using ha
  refine same_of_pieces hpart (pieces_ne_nil a) hempty ?_ ?_
  · rw [hp, List.append_nil]
  · rw [hq, pieces_join, pieces_of_not_counts hpart]

/-- **A spelling may be changed in any of these ways.** -/
theorem Respelled.same (h : p.Respelled q) : p.Same q := by
  cases h with
  | slash a b => exact same_inside a.toList b.toList not_counts_empty (by simp) (by simp)
  | dot a b => exact same_inside a.toList b.toList not_counts_dot (by simp) (by simp)
  | lastSlash a ha => exact same_at_end (by simpa using ha) not_counts_empty rfl (by simp)
  | lastDot a ha => exact same_at_end (by simpa using ha) not_counts_dot rfl (by simp)

end

/-! ## A spelling to compare with -/

/-- The texts `x` and `y` lead to each other by changes that do not count. -/
def Connected (x y : List Char) : Prop :=
  Relation.EqvGen Respelled ⟨.ofList x⟩ ⟨.ofList y⟩

namespace Connected

variable {x y z a : List Char}

theorem trans (h : Connected x y) (h' : Connected y z) : Connected x z :=
  Relation.EqvGen.trans _ _ _ h h'

theorem of_respelled {p q : FilePath} (h : p.Respelled q) (hp : p.text.toList = y)
    (hq : q.text.toList = x) : Connected x y := by
  subst hp hq
  rw [Connected, String.ofList_toList, String.ofList_toList]
  exact .symm _ _ (.rel _ _ h)

/-- One of two slashes in a row may go. -/
theorem slash (a b : List Char) : Connected (a ++ '/' :: '/' :: b) (a ++ '/' :: b) :=
  of_respelled (.slash (.ofList a) (.ofList b)) (by simp) (by simp)

/-- A dot between two slashes may go. -/
theorem dot (a b : List Char) : Connected (a ++ '/' :: '.' :: '/' :: b) (a ++ '/' :: b) :=
  of_respelled (.dot (.ofList a) (.ofList b)) (by simp) (by simp)

/-- A slash at the end may go. -/
theorem lastSlash (ha : a ≠ []) : Connected (a ++ ['/']) a :=
  of_respelled (.lastSlash (.ofList a) (by simpa [← String.toList_inj] using ha)) (by simp) (by simp)

/-- A dot at the end may go. -/
theorem lastDot (ha : a ≠ []) : Connected (a ++ ['/', '.']) a :=
  of_respelled (.lastDot (.ofList a) (by simpa [← String.toList_inj] using ha)) (by simp) (by simp)

/-- A part that does not count can be taken out from behind a part that is not empty. -/
theorem drop_part {first part : List Char} (hfirst : first ≠ []) (hpart : ¬ counts part)
    (parts : List (List Char)) : Connected (join (first :: part :: parts)) (join (first :: parts)) := by
  rw [join_cons_cons]
  cases parts with
  | nil =>
    rw [join_singleton, join_singleton]
    rcases eq_of_not_counts hpart with rfl | rfl
    · exact lastSlash hfirst
    · exact lastDot hfirst
  | cons next rest =>
    rw [join_cons_cons, join_cons_cons]
    rcases eq_of_not_counts hpart with rfl | rfl
    · exact slash first _
    · exact dot first _

/-- So can all of them. -/
theorem filter_counts {first : List Char} (hfirst : first ≠ []) (parts : List (List Char)) :
    Connected (join (first :: parts)) (join (first :: parts.filter counts)) := by
  induction parts generalizing first with
  | nil => exact .refl _
  | cons part parts ih =>
    by_cases hpart : counts part
    · rw [List.filter_cons_of_pos hpart, ← join_glue, ← join_glue]
      exact ih (by simp)
    · rw [List.filter_cons_of_neg hpart]
      exact (drop_part hfirst hpart parts).trans (ih hfirst)

end Connected

/-- **A spelling leads to that of its components.** -/
theorem respelled_components (p : FilePath) :
    Relation.EqvGen Respelled p ⟨.ofList (join (p.components.map PathComponent.spelling))⟩ := by
  suffices h : Connected p.text.toList (join (p.components.map PathComponent.spelling)) by
    rwa [Connected, String.ofList_toList] at h
  have hnames (names : List (List Char)) :
      (names.map PathComponent.named).map PathComponent.spelling = names := by
    simp [PathComponent.spelling, Function.comp_def]
  rw [components_eq, List.map_append, hnames, names, anchor_eq_start]
  have htext := join_pieces p.text.toList
  obtain ⟨part, parts, hpieces⟩ := exists_pieces_eq p.text.toList
  rw [hpieces] at htext ⊢
  rw [← htext]
  match part, parts with
  | [], [] => exact .refl _
  | [], next :: rest =>
    -- what is left out must not follow an empty part, so a dot is put behind the first slash
    have hroot : Connected (join ([] :: next :: rest)) (join (['/', '.'] :: next :: rest)) := by
      rw [join_cons_cons, join_cons_cons]
      exact .symm _ _ (Connected.dot [] _)
    exact hroot.trans (.filter_counts (List.cons_ne_nil _ _) _)
  | c :: cs, parts =>
    by_cases hdot : c :: cs = ['.']
    · rw [hdot]
      exact .filter_counts (List.cons_ne_nil _ _) _
    · have hpart : counts (c :: cs) := by simpa [counts] using hdot
      have hstart : start ((c :: cs) :: parts) = [] := if_neg hdot
      rw [hstart, List.filter_cons_of_pos hpart]
      exact .filter_counts (List.cons_ne_nil _ _) _

/-- **Spellings of one path are those that lead to each other** by one slash or dot more or less,
and another, and so on. -/
theorem same_iff_respelled {p q : FilePath} : p.Same q ↔ Relation.EqvGen Respelled p q := by
  constructor
  · intro h
    have hp := respelled_components p
    rw [h] at hp
    exact .trans _ _ _ hp (.symm _ _ (respelled_components q))
  · intro h
    induction h with
    | rel p q h => exact h.same
    | refl p => exact .refl p
    | symm p q _ ih => exact ih.symm
    | trans p q r _ _ ihp ihq => exact ihp.trans ihq

/-! ## What spellings of one path have in common -/

/-- How often a path goes up. -/
def ups (p : FilePath) : Nat := (pieces p.text.toList).count ['.', '.']

/-- A path's characters other than slashes and dots. -/
def letters (p : FilePath) : List Char := p.text.toList.filter fun c => c != '/' && c != '.'

/-- What two spellings have in common if they are spellings of one path. -/
structure Alike (p q : FilePath) : Prop where
  absolute : p.IsAbsolute ↔ q.IsAbsolute
  leadingDot : p.LeadsWithDot ↔ q.LeadsWithDot
  ups : p.ups = q.ups
  /-- In the same case, too. -/
  letters : p.letters = q.letters
  empty : p.text = "" ↔ q.text = ""

/-- How often a path goes up is told by its names. -/
theorem ups_eq (p : FilePath) : p.ups = p.names.count ['.', '.'] := by
  rw [ups, names, List.count_filter (by decide)]

/-- What is kept of a spelling without its slashes is kept part by part. -/
theorem filter_join (keep : Char → Bool) (hslash : keep '/' = false) (parts : List (List Char)) :
    (join parts).filter keep = parts.flatMap (·.filter keep) := by
  induction parts with
  | nil => rfl
  | cons part parts ih =>
    cases parts with
    | nil => simp
    | cons next rest =>
      rw [join_cons_cons, List.filter_append, List.filter_cons_of_neg (by simp [hslash]), ih]
      rfl

/-- The letters of a spelling are those of its names. -/
theorem letters_eq (p : FilePath) :
    p.letters = p.names.flatMap (·.filter fun c => c != '/' && c != '.') := by
  rw [letters, ← join_pieces p.text.toList, filter_join _ rfl, names]
  induction pieces p.text.toList with
  | nil => rfl
  | cons part parts ih =>
    by_cases hpart : counts part
    · rw [List.filter_cons_of_pos hpart, List.flatMap_cons, List.flatMap_cons, ih]
    · rw [List.filter_cons_of_neg hpart, List.flatMap_cons, ih]
      rcases eq_of_not_counts hpart with rfl | rfl <;> rfl

/-- Only the empty spelling has no components. -/
theorem components_eq_nil_iff (p : FilePath) : p.components = [] ↔ p.text = "" := by
  rw [← String.toList_eq_nil_iff, ← pieces_eq_empty_iff, components_eq, names, anchor_eq_start]
  obtain ⟨part, parts, hpieces⟩ := exists_pieces_eq p.text.toList
  rw [hpieces]
  match part, parts with
  | [], [] => decide
  | [], next :: rest => simp [start]
  | c :: cs, parts =>
    by_cases hdot : c :: cs = ['.']
    · simp [start, hdot]
    · have hpart : counts (c :: cs) := by simpa [counts] using hdot
      simp [List.filter_cons_of_pos hpart]

/-- **Spellings of one path are alike in all that was named.** -/
theorem Same.alike {p q : FilePath} (h : p.Same q) : p.Alike q := by
  obtain ⟨habsolute, hdot, hnames⟩ := same_iff.mp h
  refine ⟨habsolute, hdot, ?_, ?_, ?_⟩
  · rw [ups_eq, ups_eq, hnames]
  · rw [letters_eq, letters_eq, hnames]
  · rw [← components_eq_nil_iff, ← components_eq_nil_iff, h]

end FilePath

end WindowDecor
