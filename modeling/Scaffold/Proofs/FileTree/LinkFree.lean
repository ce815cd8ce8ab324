import Scaffold.Proofs.FileTree.InPlace
import Scaffold.Proofs.Path.Names

/-! Trees without links.

In a tree without links the names in a path say which location it leads to: its spot, however many
of the directories on the way are there. Main statements: a path that never goes up leads to what is
at its spot (`find?_eq_ok_iff_spot`), and resolution is the same in trees that look alike along the
way (`walk_congr`). -/

set_option autoImplicit false

namespace Scaffold

/-- An entry without its permission bits. -/
def Entry.shape : Entry → Entry
  | .directory _ => .directory 0
  | entry => entry

namespace FileTree

open Scaffold.Path (namesOf EndInName)

def LinkFree (tree : FileTree) : Prop :=
  ∀ location target, tree.at? location ≠ some (.link target)

/-- The location that the names in a path say. -/
def spot (tree : FileTree) (path : Path) : Location :=
  path.names.reverse ++ startOf tree.workingDirectory path

variable {tree first second : FileTree} {intent : Intent} {links left : Nat}
  {directory reached location : Location} {components : List Component} {path : Path} {name : Name}
  {entry : Entry} {content : ByteArray}

theorem linkFree_of_entries
    (plain : ∀ present ∈ tree.entries, present.2.isDirectory || present.2.isFile) :
    tree.LinkFree := by
  intro location target linked
  cases location with
  | nil => cases linked
  | cons name parent => exact absurd (plain _ (mem_entries_of_at?_cons linked)) nofun

theorem isDirectory_of_at?_append {front : List Name} (deeper : front ≠ [])
    (found : tree.at? (front ++ directory) = some entry) : tree.IsDirectory directory := by
  induction front generalizing entry with
  | nil => exact absurd rfl deeper
  | cons name front ih =>
      have inside := isDirectory_of_at?_cons found
      by_cases last : front = []
      · rwa [last] at inside
      · obtain ⟨mode, there⟩ := inside
        exact ih last there

theorem IsDirectory.of_append {front : List Name} (inside : tree.IsDirectory (front ++ directory)) :
    tree.IsDirectory directory := by
  by_cases last : front = []
  · rwa [last] at inside
  · obtain ⟨mode, found⟩ := inside
    exact isDirectory_of_at?_append last found

/-! ### Where components lead -/

theorem reverse_cons_append (name : Name) (rest : List Name) (directory : Location) :
    (name :: rest).reverse ++ directory = rest.reverse ++ name :: directory := by
  rw [List.reverse_cons, List.append_assoc, List.singleton_append]

theorem reverse_namesOf_entry (name : Name) (rest : List Component) (directory : Location) :
    (namesOf (.entry name :: rest)).reverse ++ directory =
      (namesOf rest).reverse ++ name :: directory :=
  reverse_cons_append name (namesOf rest) directory

theorem leads_of_isDirectory (level : .up ∉ components)
    (short : ∀ name ∈ namesOf components, ¬ tree.limits.nameBytes < name.length)
    (inside : tree.IsDirectory ((namesOf components).reverse ++ directory)) :
    tree.Leads links directory components links ((namesOf components).reverse ++ directory) := by
  induction components generalizing directory with
  | nil => exact .done
  | cons component rest ih =>
      have lower := List.not_mem_of_not_mem_cons level
      cases component with
      | blank => exact .blank (ih lower short inside)
      | here => exact .here (ih lower short inside)
      | up => exact absurd List.mem_cons_self level
      | entry name =>
          have further := (@List.forall_mem_cons _ _ name (namesOf rest)).mp short
          rw [reverse_namesOf_entry] at inside ⊢
          obtain ⟨mode, found⟩ := inside.of_append
          exact .enter further.1 found (ih lower further.2 inside)

theorem Leads.reached_eq (linkFree : tree.LinkFree) (level : .up ∉ components)
    (leads : tree.Leads links directory components left reached) :
    reached = (namesOf components).reverse ++ directory ∧
      ∀ name ∈ namesOf components, ¬ tree.limits.nameBytes < name.length := by
  induction leads with
  | done => exact ⟨rfl, nofun⟩
  | blank _ ih => exact ih (List.not_mem_of_not_mem_cons level)
  | here _ ih => exact ih (List.not_mem_of_not_mem_cons level)
  | up _ _ => exact absurd List.mem_cons_self level
  | enter short _ _ ih =>
      obtain ⟨same, further⟩ := ih (List.not_mem_of_not_mem_cons level)
      rw [reverse_namesOf_entry]
      exact ⟨same, List.forall_mem_cons.mpr ⟨short, further⟩⟩
  | follow _ found _ _ => exact absurd found (linkFree _ _)

/-- Where components end at an entry, their names say where it is; nothing follows the name of a
file. -/
theorem Ends.location_eq (linkFree : tree.LinkFree) (level : .up ∉ components)
    (inside : tree.IsDirectory directory)
    (ends : tree.Ends links directory components (.existing location)) :
    (∀ name ∈ namesOf components, ¬ tree.limits.nameBytes < name.length) ∧
      location = (namesOf components).reverse ++ directory ∧
        (tree.IsDirectory location ∨ EndInName components) := by
  have onward {component : Component} {rest : List Component} :
      EndInName rest → EndInName (component :: rest) := by
    intro named
    obtain ⟨before, name, divided⟩ := named
    exact ⟨component :: before, name, congrArg _ divided⟩
  generalize last : Destination.existing location = destination at ends
  induction ends with
  | done =>
      cases last
      exact ⟨nofun, rfl, Or.inl inside⟩
  | blank _ ih =>
      obtain ⟨short, same, final⟩ := ih (List.not_mem_of_not_mem_cons level) inside last
      exact ⟨short, same, final.imp_right onward⟩
  | here _ ih =>
      obtain ⟨short, same, final⟩ := ih (List.not_mem_of_not_mem_cons level) inside last
      exact ⟨short, same, final.imp_right onward⟩
  | up _ _ => exact absurd List.mem_cons_self level
  | enter fits found _ ih =>
      obtain ⟨short, same, final⟩ := ih (List.not_mem_of_not_mem_cons level) ⟨_, found⟩ last
      rw [reverse_namesOf_entry]
      exact ⟨List.forall_mem_cons.mpr ⟨fits, short⟩, same, final.imp_right onward⟩
  | file fits _ =>
      cases last
      exact ⟨List.forall_mem_cons.mpr ⟨fits, nofun⟩, rfl, Or.inr ⟨[], _, rfl⟩⟩
  | missing => cases last
  | follow _ found _ _ => exact absurd found (linkFree _ _)

/-- A path that never goes up leads to what is at its spot, unless that is a file and the path asks
for a directory. -/
theorem find?_eq_ok_iff_spot (linkFree : tree.LinkFree) (level : .up ∉ path.components) :
    tree.find? path = .ok (location, entry) ↔
      tree.checkPath path = .ok () ∧
        (∀ name ∈ path.names, ¬ tree.limits.nameBytes < name.length) ∧
          location = tree.spot path ∧ tree.at? location = some entry ∧
            (entry.isDirectory = true ∨ EndInName path.components) := by
  have start := IsDirectory.startOf tree.working_directory path
  rw [find?_eq_ok_iff]
  constructor
  · intro found
    obtain ⟨checked, walked, present⟩ := found
    obtain ⟨short, same, final⟩ := (ends_of_walk walked).location_eq linkFree level start
    refine ⟨checked, short, same, present, final.imp_left ?_⟩
    intro inside
    obtain ⟨mode, there⟩ := inside
    cases present.symm.trans there
    rfl
  · intro there
    obtain ⟨checked, short, rfl, present, final⟩ := there
    refine ⟨checked, ?_, present⟩
    cases entry with
    | directory mode => exact (leads_of_isDirectory level short ⟨mode, present⟩).walk_eq
    | link target => exact absurd present (linkFree _ _)
    | file content =>
        obtain ⟨before, name, divided⟩ := final.resolve_left nofun
        have named := Path.names_eq_append divided
        have place : tree.spot path =
            name :: ((namesOf before).reverse ++ startOf tree.workingDirectory path) := by
          rw [spot, named, List.reverse_concat]
          rfl
        rw [named, List.forall_mem_append] at short
        rw [place] at present ⊢
        rw [divided] at level ⊢
        have leads := @leads_of_isDirectory tree tree.limits.links _ before
          (fun member => level (List.mem_append_left _ member)) short.1
          (isDirectory_of_at?_cons present)
        rw [leads.inspect_append,
          walk_entry open_of_inspect (short.2 name List.mem_cons_self), present]
        rfl

theorem exists?_iff_spot (linkFree : tree.LinkFree) (level : .up ∉ path.components) :
    tree.exists? path = true ↔
      tree.checkPath path = .ok () ∧
        (∀ name ∈ path.names, ¬ tree.limits.nameBytes < name.length) ∧
          ∃ entry, tree.at? (tree.spot path) = some entry ∧
            (entry.isDirectory = true ∨ EndInName path.components) := by
  constructor
  · intro present
    cases found : tree.find? path with
    | error fault =>
        rw [exists?, found] at present
        cases present
    | ok pair =>
        obtain ⟨checked, short, same, there, final⟩ := (find?_eq_ok_iff_spot linkFree level).mp found
        rw [same] at there
        exact ⟨checked, short, pair.2, there, final⟩
  · intro there
    obtain ⟨checked, short, entry, present, final⟩ := there
    rw [exists?, (find?_eq_ok_iff_spot linkFree level).mpr ⟨checked, short, rfl, present, final⟩]
    rfl

theorem EndsAt.spot_eq (linkFree : tree.LinkFree) (level : .up ∉ path.components)
    (ends : tree.EndsAt path directory name) : tree.spot path = name :: directory := by
  obtain ⟨before, left, divided, leads⟩ := ends.leads
  rw [divided] at level
  obtain ⟨same, -⟩ := leads.reached_eq linkFree fun member => level (List.mem_append_left _ member)
  rw [spot, Path.names, divided, Path.namesOf_append, List.reverse_append, same]
  rfl

/-! ### Trees that look alike along the way -/

/-- At every location that some of the names say, two trees have entries of the same shape. -/
def AlikeAlong (first second : FileTree) (directory : Location) (names : List Name) : Prop :=
  ∀ front, front <+: names → front ≠ [] →
    (second.at? (front.reverse ++ directory)).map Entry.shape =
      (first.at? (front.reverse ++ directory)).map Entry.shape

theorem walkWith_congr_along
    {follow further : Location → List Component → Except Fault Destination}
    (limits : second.limits = first.limits) (linkFree : first.LinkFree)
    (alike : AlikeAlong first second directory (namesOf components))
    (level : .up ∉ components) :
    second.walkWith intent further directory components =
      first.walkWith intent follow directory components := by
  induction components generalizing directory with
  | nil => rfl
  | cons component rest ih =>
      have lower := List.not_mem_of_not_mem_cons level
      cases component with
      | blank => exact ih alike lower
      | here => exact ih alike lower
      | up => exact absurd List.mem_cons_self level
      | entry name =>
          have same : (second.at? (name :: directory)).map Entry.shape =
              (first.at? (name :: directory)).map Entry.shape :=
            alike [name] (List.prefix_append [name] _) (List.cons_ne_nil _ _)
          have onward : AlikeAlong first second (name :: directory) (namesOf rest) := by
            intro front begins some
            have deeper := alike (name :: front) (List.cons_prefix_cons.mpr ⟨rfl, begins⟩)
              (List.cons_ne_nil _ _)
            rwa [reverse_cons_append] at deeper
          rw [walkWith, walkWith, limits]
          cases found : first.at? (name :: directory) with
          | none =>
              rw [found, Option.map_none, Option.map_eq_none_iff] at same
              rw [same]
          | some entry =>
              rw [found, Option.map_some, Option.map_eq_some_iff] at same
              obtain ⟨other, there, shape⟩ := same
              rw [there]
              cases entry with
              | link target => exact absurd found (linkFree _ _)
              | directory mode =>
                  cases other with
                  | directory _ => simp only [ih onward lower]
                  | file _ => cases shape
                  | link _ => cases shape
              | file content =>
                  cases other with
                  | directory _ => cases shape
                  | file _ => rfl
                  | link _ => cases shape

theorem walk_congr (limits : second.limits = first.limits) (linkFree : first.LinkFree)
    (alike : AlikeAlong first second directory (namesOf components)) (level : .up ∉ components) :
    second.walk intent links directory components =
      first.walk intent links directory components := by
  cases links with
  | zero => exact walkWith_congr_along limits linkFree alike level
  | succ fewer => exact walkWith_congr_along limits linkFree alike level

end FileTree

end Scaffold
