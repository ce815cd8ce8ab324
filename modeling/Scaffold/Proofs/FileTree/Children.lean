import Mathlib.Data.List.Nodup
import Scaffold.Proofs.FileTree.InPlace

/-! What lies directly in a directory.

The names that reading a directory gives are those of the entries there, each once
(`mem_childNames_iff`, `nodup_childNames`). A path that joins a name to another path leads into the
directory that the other path leads to, so what is found there is among its names
(`find?_of_join`). -/

set_option autoImplicit false

namespace Scaffold.FileTree

variable {tree : FileTree} {name : Name} {directory location : Location} {entry : Entry}

/-- Every entry has a name that a directory can hold an entry by. -/
def WellNamed (tree : FileTree) : Prop :=
  ∀ directory, ∀ name ∈ tree.childNames directory, Path.IsName name

/-! ### Names in a directory -/

def nameIn (directory : Location) : Location → Option Name
  | [] => none
  | name :: parent => if parent = directory then some name else none

theorem nameIn_eq_some_iff : nameIn directory location = some name ↔ location = name :: directory := by
  cases location with
  | nil => simp [nameIn]
  | cons first parent =>
      by_cases same : parent = directory
      · simp [nameIn, same]
      · simp [nameIn, same]

theorem childNames_eq (tree : FileTree) (directory : Location) :
    tree.childNames directory = (tree.entries.map Prod.fst).filterMap (nameIn directory) := by
  rw [List.filterMap_map]
  apply List.filterMap_congr
  rintro ⟨location, entry⟩ -
  cases location with
  | nil => rfl
  | cons name parent => rfl

theorem mem_childNames_iff :
    name ∈ tree.childNames directory ↔ ∃ entry, tree.at? (name :: directory) = some entry := by
  simp only [childNames_eq, List.mem_filterMap, nameIn_eq_some_iff, exists_eq_right]
  constructor
  · exact lookup_isSome_of_mem
  · rintro ⟨entry, found⟩
    exact mem_of_lookup found

theorem nodup_childNames (tree : FileTree) (directory : Location) :
    (tree.childNames directory).Nodup := by
  rw [childNames_eq]
  refine tree.locations_distinct.filterMap ?_
  intro left right name first second
  rw [nameIn_eq_some_iff.mp first, nameIn_eq_some_iff.mp second]

theorem wellNamed_iff :
    tree.WellNamed ↔
      ∀ location ∈ tree.entries.map Prod.fst, ∀ name ∈ location.head?, Path.IsName name := by
  simp only [WellNamed, childNames_eq, List.mem_filterMap, nameIn_eq_some_iff, exists_eq_right]
  constructor
  · intro wellNamed location member name first
    cases location with
    | nil => cases first
    | cons other directory =>
        cases first
        exact wellNamed directory name member
  · intro proper directory name member
    exact proper _ member name rfl

instance (tree : FileTree) : Decidable tree.WellNamed := decidable_of_iff _ wellNamed_iff.symm

theorem readDirectory_eq_ok_iff {path : Path} {names : List Name} :
    tree.readDirectory path = .ok names ↔
      ∃ location mode, tree.find? path = .ok (location, .directory mode) ∧
        names = tree.childNames location := by
  unfold readDirectory
  constructor
  · intro reads
    cases found : tree.find? path with
    | error fault => rw [found] at reads; cases reads
    | ok pair =>
        obtain ⟨location, entry⟩ := pair
        rw [found] at reads
        cases entry with
        | directory mode => cases reads; exact ⟨location, mode, rfl, rfl⟩
        | file content => cases reads
        | link target => cases reads
  · rintro ⟨location, mode, found, rfl⟩
    rw [found]
    rfl

/-! ### Paths into a directory -/

theorem find?_of_join {base : Path} (proper : Path.IsName name) (written : base.isEmpty = false)
    (found : tree.find? (base.join ⟨name⟩) = .ok (location, entry)) :
    ∃ directory mode, tree.find? base = .ok (directory, .directory mode) ∧
      name ∈ tree.childNames directory := by
  obtain ⟨checked, walked, -⟩ := find?_eq_ok_iff.mp found
  obtain ⟨before, divided, steps⟩ := @Path.components_join base name proper
  rw [divided] at walked
  obtain ⟨left, directory, leads, last⟩ :=
    exists_leads_of_walk (Or.inl (List.cons_ne_nil _ _)) walked
  have onward := leads.of_same_steps steps.symm
  unfold startOf at onward
  rw [Path.isAbsolute_join proper] at onward
  obtain ⟨mode, inside⟩ := onward.isDirectory (IsDirectory.startOf tree.working_directory base)
  refine ⟨directory, mode, find?_directory_iff.mpr ⟨?_, inside, left, onward⟩, ?_⟩
  · exact checkPath_of_beginning (Path.bytes_begin_join proper) written checked
  · apply mem_childNames_iff.mpr
    cases there : tree.at? (name :: directory) with
    | some present => exact ⟨present, rfl⟩
    | none =>
        by_cases short : tree.limits.nameBytes < name.length
        · obtain ⟨fault, refused⟩ :=
            @walk_entry_refused tree .inspect left directory [] name (Or.inr short)
          rw [refused] at last
          cases last
        · rw [walk_entry open_of_inspect short, there] at last
          cases last

end Scaffold.FileTree
