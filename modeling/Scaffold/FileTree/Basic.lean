import Scaffold.Path

/-! File trees: directories, regular files and symbolic links.

A tree is one value: the entries by their locations, and the directory that relative paths start
from. The root directory always exists and is not among the entries. Two things hold of every
tree by its type: each entry lies in a directory, and the working directory is a directory. All
changes go through `place` and `prune`, whose effect on `at?` is stated here; the order in which
entries are kept means nothing.

Directories have permission bits, but no bit refuses anything: trees are seen by a process that
permissions do not bind, and they have no owners. -/

set_option autoImplicit false

namespace Scaffold

/-- A place in a tree: the names on the way to it, the innermost first. The root is `[]`. -/
abbrev Location := List Name

instance contentDecidableEq : DecidableEq ByteArray := fun left right =>
  decidable_of_iff (left.data = right.data) ByteArray.ext_iff.symm

inductive Entry where
  | directory (mode : UInt32)
  | file (content : ByteArray)
  | link (target : Path)
deriving DecidableEq

def Entry.isDirectory : Entry → Bool
  | .directory _ => true
  | _ => false

def Entry.isFile : Entry → Bool
  | .file _ => true
  | _ => false

/-- How far path resolution goes, and how large a file can be made. -/
structure Limits where
  links : Nat := 40
  nameBytes : Nat := 255
  pathBytes : Nat := 4095
  /-- Without a number, files can be of any size. -/
  fileBytes : Option Nat := none
deriving DecidableEq

namespace Limits

def holds (limits : Limits) (content : ByteArray) : Bool :=
  limits.fileBytes.all fun most => content.size ≤ most

/-- What is written of a content before the size of the file stops it. -/
def part (limits : Limits) (content : ByteArray) : ByteArray :=
  match limits.fileBytes with
  | some most => content.extract 0 most
  | none => content

theorem part_of_holds {limits : Limits} {content : ByteArray}
    (held : limits.holds content = true) : limits.part content = content := by
  unfold part
  cases bound : limits.fileBytes with
  | none => rfl
  | some most =>
      rw [holds, bound, Option.all_some, decide_eq_true_iff] at held
      have whole := @ByteArray.extract_zero_max_size content most
      rwa [Nat.max_eq_left held] at whole

end Limits

def rootMode : UInt32 := 0o755

def entryIn (entries : List (Location × Entry)) : Location → Option Entry
  | [] => some (.directory rootMode)
  | location => entries.lookup location

def IsDirectoryIn (entries : List (Location × Entry)) (location : Location) : Prop :=
  ∃ mode, entryIn entries location = some (.directory mode)

instance (entries : List (Location × Entry)) (location : Location) :
    Decidable (IsDirectoryIn entries location) :=
  match found : entryIn entries location with
  | some (.directory mode) => .isTrue ⟨mode, found⟩
  | some (.file _) => .isFalse (by rintro ⟨mode, same⟩; rw [found] at same; cases same)
  | some (.link _) => .isFalse (by rintro ⟨mode, same⟩; rw [found] at same; cases same)
  | none => .isFalse (by rintro ⟨mode, same⟩; rw [found] at same; cases same)

structure FileTree where
  limits : Limits
  entries : List (Location × Entry)
  workingDirectory : Location
  locations_distinct : (entries.map Prod.fst).Nodup
  parents_directories : ∀ name parent, name :: parent ∈ entries.map Prod.fst →
    IsDirectoryIn entries parent
  working_directory : IsDirectoryIn entries workingDirectory

namespace FileTree

def at? (tree : FileTree) (location : Location) : Option Entry := entryIn tree.entries location

def IsDirectory (tree : FileTree) (location : Location) : Prop :=
  IsDirectoryIn tree.entries location

instance (tree : FileTree) (location : Location) : Decidable (tree.IsDirectory location) :=
  inferInstanceAs (Decidable (IsDirectoryIn tree.entries location))

/-- The tree that holds an empty working directory and nothing else. -/
def fresh : FileTree where
  limits := {}
  entries := [([[0x77]], .directory 0o755)]
  workingDirectory := [[0x77]]
  locations_distinct := by simp
  parents_directories := by
    intro name parent member
    simp only [List.map_cons, List.map_nil, List.mem_singleton, List.cons.injEq] at member
    rw [member.2]
    exact ⟨rootMode, rfl⟩
  working_directory := ⟨0o755, rfl⟩

def childNames (tree : FileTree) (directory : Location) : List Name :=
  tree.entries.filterMap fun (location, _) =>
    match location with
    | [] => none
    | name :: parent => if parent = directory then some name else none

/-! ### Lookups in changed entry lists -/

theorem lookup_entry (location other : Location) (entry : Entry)
    (entries : List (Location × Entry)) :
    ((location, entry) :: entries).lookup other =
      if other = location then some entry else entries.lookup other := by
  by_cases same : other = location
  · simp [same]
  · simp [List.lookup_cons, same, beq_false_of_ne same]

theorem lookup_filter (keep : Location → Bool) (other : Location)
    (entries : List (Location × Entry)) :
    (entries.filter fun entry => keep entry.1).lookup other =
      if keep other then entries.lookup other else none := by
  induction entries with
  | nil => simp
  | cons head rest ih =>
      obtain ⟨location, entry⟩ := head
      by_cases kept : keep location
      · by_cases same : other = location
        · simp [kept, same]
        · simp [kept, lookup_entry, same, ih]
      · by_cases same : other = location
        · subst same
          simp [kept, ih]
        · simp [kept, lookup_entry, same, ih]

theorem lookup_isSome_of_mem {location : Location} {entries : List (Location × Entry)}
    (member : location ∈ entries.map Prod.fst) : ∃ entry, entries.lookup location = some entry := by
  induction entries with
  | nil => simp at member
  | cons head rest ih =>
      obtain ⟨first, entry⟩ := head
      by_cases same : location = first
      · exact ⟨entry, by rw [lookup_entry, if_pos same]⟩
      · have deeper : location ∈ rest.map Prod.fst := by
          simpa [same] using member
        obtain ⟨found, present⟩ := ih deeper
        exact ⟨found, by rw [lookup_entry, if_neg same, present]⟩

theorem mem_of_lookup {location : Location} {entry : Entry} {entries : List (Location × Entry)}
    (found : entries.lookup location = some entry) : location ∈ entries.map Prod.fst := by
  induction entries with
  | nil => simp at found
  | cons head rest ih =>
      obtain ⟨first, other⟩ := head
      by_cases same : location = first
      · simp [same]
      · rw [lookup_entry, if_neg same] at found
        simp [ih found]

/-! ### Placing an entry -/

/-- Whether an entry may be put at a location: the location lies in a directory, and a directory
there is not replaced by anything else. -/
def Admits (tree : FileTree) (location : Location) (entry : Entry) : Prop :=
  ∃ name parent, location = name :: parent ∧ tree.IsDirectory parent ∧
    (tree.IsDirectory location → entry.isDirectory = true)

instance (tree : FileTree) (location : Location) (entry : Entry) :
    Decidable (tree.Admits location entry) :=
  match location with
  | [] => .isFalse (by rintro ⟨_, _, impossible, _⟩; cases impossible)
  | name :: parent =>
      if admitted : tree.IsDirectory parent ∧
          (tree.IsDirectory (name :: parent) → entry.isDirectory = true) then
        .isTrue ⟨name, parent, rfl, admitted⟩
      else
        .isFalse (by
          rintro ⟨_, _, same, inside⟩
          cases same
          exact admitted inside)

def placeIn (location : Location) (entry : Entry) (entries : List (Location × Entry)) :
    List (Location × Entry) :=
  (location, entry) :: entries.filter fun other => other.1 != location

theorem entryIn_placeIn {name : Name} {parent : Location} {entry : Entry}
    {entries : List (Location × Entry)} (other : Location) :
    entryIn (placeIn (name :: parent) entry entries) other =
      if other = name :: parent then some entry else entryIn entries other := by
  cases other with
  | nil => simp [entryIn]
  | cons first outer =>
      simp only [entryIn, placeIn, lookup_entry]
      by_cases same : first :: outer = name :: parent
      · simp [same]
      · rw [if_neg same, if_neg same, lookup_filter (fun location => location != name :: parent)]
        simp [same]

theorem isDirectoryIn_placeIn {tree : FileTree} {location other : Location} {entry : Entry}
    (admitted : tree.Admits location entry) (directory : IsDirectoryIn tree.entries other) :
    IsDirectoryIn (placeIn location entry tree.entries) other := by
  obtain ⟨name, parent, rfl, -, keeps⟩ := admitted
  by_cases same : other = name :: parent
  · subst same
    have replaced := keeps directory
    cases entry with
    | directory mode => exact ⟨mode, by rw [entryIn_placeIn, if_pos rfl]⟩
    | file content => cases replaced
    | link target => cases replaced
  · obtain ⟨mode, found⟩ := directory
    exact ⟨mode, by rw [entryIn_placeIn, if_neg same]; exact found⟩

/-- The tree with an entry put at a location, replacing what was there; a tree that does not admit
the entry stays as it is. -/
def place (tree : FileTree) (location : Location) (entry : Entry) : FileTree :=
  if admitted : tree.Admits location entry then
    { tree with
      entries := placeIn location entry tree.entries
      locations_distinct := by
        have kept : ((tree.entries.filter fun other => other.1 != location).map Prod.fst).Nodup :=
          tree.locations_distinct.sublist (List.filter_sublist.map Prod.fst)
        refine List.nodup_cons.mpr ⟨?_, kept⟩
        intro member
        obtain ⟨other, present, same⟩ := List.mem_map.mp member
        have differs := (List.mem_filter.mp present).2
        simp [same] at differs
      parents_directories := by
        intro name parent member
        apply isDirectoryIn_placeIn admitted
        rcases List.mem_cons.mp member with same | old
        · obtain ⟨_, _, rfl, inside, -⟩ := admitted
          cases same
          exact inside
        · obtain ⟨other, present, same⟩ := List.mem_map.mp old
          exact tree.parents_directories name parent
            (List.mem_map.mpr ⟨other, (List.mem_filter.mp present).1, same⟩)
      working_directory := isDirectoryIn_placeIn admitted tree.working_directory }
  else tree

theorem at?_place {tree : FileTree} {location : Location} {entry : Entry}
    (admitted : tree.Admits location entry) (other : Location) :
    (tree.place location entry).at? other =
      if other = location then some entry else tree.at? other := by
  unfold place
  rw [dif_pos admitted]
  obtain ⟨name, parent, rfl, -, -⟩ := admitted
  exact entryIn_placeIn other

theorem place_of_not_admits {tree : FileTree} {location : Location} {entry : Entry}
    (refused : ¬ tree.Admits location entry) : tree.place location entry = tree := by
  unfold place
  rw [dif_neg refused]

/-! ### Pruning a location -/

def isWithin (location outer : Location) : Bool := outer.isSuffixOf location

def pruneIn (location : Location) (entries : List (Location × Entry)) : List (Location × Entry) :=
  entries.filter fun other => !isWithin other.1 location

theorem entryIn_pruneIn {location : Location} {entries : List (Location × Entry)}
    (other : Location) (outside : isWithin other location = false) :
    entryIn (pruneIn location entries) other = entryIn entries other := by
  cases other with
  | nil => rfl
  | cons first outer =>
      simp only [entryIn, pruneIn]
      rw [lookup_filter (fun place => !isWithin place location)]
      simp [outside]

theorem isWithin_cons {name : Name} {parent location : Location}
    (within : isWithin parent location = true) : isWithin (name :: parent) location = true := by
  simp only [isWithin, List.isSuffixOf_iff_suffix] at within ⊢
  exact within.trans (List.suffix_cons name parent)

/-- The tree without the entry at a location and all that lies below it. The root and the
directories on the way to the working directory stay. -/
def prune (tree : FileTree) (location : Location) : FileTree :=
  if outside : isWithin tree.workingDirectory location = false then
    { tree with
      entries := pruneIn location tree.entries
      locations_distinct :=
        tree.locations_distinct.sublist (List.filter_sublist.map Prod.fst)
      parents_directories := by
        intro name parent member
        obtain ⟨other, present, same⟩ := List.mem_map.mp member
        obtain ⟨old, kept⟩ := List.mem_filter.mp present
        obtain ⟨mode, found⟩ := tree.parents_directories name parent
          (List.mem_map.mpr ⟨other, old, same⟩)
        refine ⟨mode, ?_⟩
        rw [entryIn_pruneIn parent, found]
        cases within : isWithin parent location with
        | false => rfl
        | true =>
            have deeper : isWithin (name :: parent) location = true := isWithin_cons within
            rw [same] at kept
            simp [deeper] at kept
      working_directory := by
        obtain ⟨mode, found⟩ := tree.working_directory
        exact ⟨mode, by rw [entryIn_pruneIn _ outside, found]⟩ }
  else tree

theorem at?_prune {tree : FileTree} {location : Location} {name : Name} {parent : Location}
    (nested : location = name :: parent)
    (outside : isWithin tree.workingDirectory location = false) (other : Location) :
    (tree.prune location).at? other =
      if isWithin other location then none else tree.at? other := by
  unfold prune
  rw [dif_pos outside]
  cases within : isWithin other location with
  | false =>
      rw [if_neg (by decide)]
      exact entryIn_pruneIn other within
  | true =>
      cases other with
      | nil => simp [nested, isWithin] at within
      | cons first outer =>
          simp only [at?, entryIn, pruneIn, if_true]
          rw [lookup_filter (fun place => !isWithin place location)]
          simp [within]

end FileTree

end Scaffold
