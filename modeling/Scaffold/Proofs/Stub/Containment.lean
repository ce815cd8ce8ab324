import Mathlib.Data.List.Sort
import Scaffold.Proofs.FileTree.LinkFree
import Scaffold.Proofs.Stub.Lookups

/-! What stub directories look at.

A stub directory answers from what can be told of the paths of its stubs: whether something is
there, of which kind, and the bytes of a file (`AnswersAlike.of_glance`). These paths lead to direct
children of the root and nowhere else, whatever a name holds. Main statement: `answers_contained`,
for two trees that share no more than the children of the root. -/

set_option autoImplicit false

namespace Scaffold

namespace FileTree

variable {tree first second : FileTree} {path base : Path} {name : Name} {location : Location}
  {mode : UInt32}

/-- What can be told of a path without regard to where it leads and to permission bits. -/
def glance (tree : FileTree) (path : Path) : Option Entry :=
  (tree.find? path).toOption.map fun found => found.2.shape

theorem isFile_eq_glance (tree : FileTree) (path : Path) :
    tree.isFile path = (tree.glance path).any Entry.isFile := by
  unfold isFile glance
  rcases tree.find? path with fault | ⟨location, entry⟩
  · rfl
  · cases entry <;> rfl

theorem exists?_eq_glance (tree : FileTree) (path : Path) :
    tree.exists? path = (tree.glance path).isSome := by
  unfold exists? glance
  cases tree.find? path <;> rfl

theorem readText_congr_glance (same : second.glance path = first.glance path)
    (present : first.exists? path = true) : second.readText path = first.readText path := by
  rw [exists?_eq_glance] at present
  obtain ⟨shape, seen⟩ := Option.isSome_iff_exists.mp present
  rw [seen] at same
  unfold glance at same seen
  unfold readText readBytes
  cases found : first.find? path with
  | error fault =>
      rw [found] at seen
      cases seen
  | ok pair =>
      cases found' : second.find? path with
      | error fault =>
          rw [found'] at same
          cases same
      | ok other =>
          rw [found] at seen
          rw [found', ← seen] at same
          have shapes : other.2.shape = pair.2.shape := Option.some.inj same
          obtain ⟨location, entry⟩ := pair
          obtain ⟨place, other⟩ := other
          cases entry <;> cases other <;> cases shapes <;> rfl

/-- What a name after the path of a directory leads to is an entry in that directory. -/
theorem glance_join (proper : Path.IsName name)
    (reached : tree.find? base = .ok (location, .directory mode))
    (unlinked : ∀ target, tree.at? (name :: location) ≠ some (.link target)) :
    tree.glance (base.join ⟨name⟩) = (tree.checkPath (base.join ⟨name⟩)).toOption.bind fun _ =>
      if tree.limits.nameBytes < name.length then none
      else (tree.at? (name :: location)).map Entry.shape := by
  obtain ⟨-, -, left, leads⟩ := find?_directory_iff.mp reached
  obtain ⟨before, divided, steps⟩ := @Path.components_join base name proper
  have onward := leads.of_same_steps steps
  unfold startOf at onward
  rw [← Path.isAbsolute_join proper] at onward
  have last := onward.inspect_append [.entry name]
  rw [← divided] at last
  unfold glance find? resolve
  cases tree.checkPath (base.join ⟨name⟩) with
  | error fault => rfl
  | ok _ =>
      simp only [bind, Except.bind, Except.toOption, Option.bind]
      unfold startOf
      rw [last]
      by_cases long : tree.limits.nameBytes < name.length
      · obtain ⟨fault, refused⟩ :=
          @walk_entry_refused tree .inspect left location [] name (Or.inr long)
        rw [refused, if_pos long]
        rfl
      · rw [walk_entry open_of_inspect long, if_neg long, walk_nil]
        cases found : tree.at? (name :: location) with
        | none => rfl
        | some entry =>
            cases entry with
            | directory _ =>
                simp only [found]
                rfl
            | file _ =>
                simp only [if_true, found]
                rfl
            | link target => exact absurd found (unlinked target)

theorem shapes_of_childNames {inside place : Location}
    (same : ∀ name ∈ second.childNames place ++ first.childNames inside,
      (second.at? (name :: place)).map Entry.shape = (first.at? (name :: inside)).map Entry.shape)
    (name : Name) :
    (second.at? (name :: place)).map Entry.shape = (first.at? (name :: inside)).map Entry.shape := by
  by_cases member : name ∈ second.childNames place ++ first.childNames inside
  · exact same name member
  · rw [List.mem_append, mem_childNames_iff, mem_childNames_iff, not_or] at member
    have none {tree : FileTree} {location : Location}
        (absent : ¬ ∃ entry, tree.at? location = some entry) : tree.at? location = none :=
      Option.eq_none_iff_forall_ne_some.mpr fun entry found => absent ⟨entry, found⟩
    rw [none member.1, none member.2]

end FileTree

namespace StubDirectory

open FileTree

variable {directory : StubDirectory} {first second : World}

/-- A stub directory answers the same in two worlds, whatever it is asked for. -/
structure AnswersAlike (directory : StubDirectory) (first second : World) : Prop where
  listed : (Action.runIn second (directory.list : Action Failure (List String))).1 =
    (Action.runIn first (directory.list : Action Failure (List String))).1
  held : ∀ name, directory.holds second.tree name = directory.holds first.tree name
  read : ∀ name, (Action.runIn second (directory.read name)).1 =
    (Action.runIn first (directory.read name)).1

theorem names_of_isEmpty {tree : FileTree} (empty : directory.root.isEmpty = true) :
    directory.names tree = [] := by
  have refused : ∃ fault, tree.checkPath directory.root = .error fault := by
    unfold checkPath
    rw [empty]
    split
    · exact ⟨_, rfl⟩
    · exact ⟨_, rfl⟩
  obtain ⟨fault, refused⟩ := refused
  rw [names, readDirectory, find?, resolve, refused]
  rfl

theorem names_congr (wellNamed : first.tree.WellNamed) (wellNamed' : second.tree.WellNamed)
    (same : ∀ name, '/' ∉ name.toList → second.tree.isFile (directory.stubPath name) =
      first.tree.isFile (directory.stubPath name)) :
    directory.names second.tree = directory.names first.tree := by
  cases rooted : directory.root.isEmpty with
  | true => rw [names_of_isEmpty rooted, names_of_isEmpty rooted]
  | false =>
      have irreflexive : Std.Irrefl fun left right : String => Text.encode left < Text.encode right :=
        ⟨fun name => List.lt_irrefl _⟩
      have antisymmetric :
          Std.Antisymm fun left right : String => Text.encode left < Text.encode right :=
        ⟨fun left right before after => absurd after (List.lt_asymm before)⟩
      refine (directory.pairwise_names second.tree).eq_of_mem_iff
        (directory.pairwise_names first.tree) fun name => ?_
      rw [mem_names_iff wellNamed' rooted, mem_names_iff wellNamed rooted]
      apply and_congr_right
      intro level
      rw [same name level]

/-- Nothing but what can be told of the paths of stubs decides the answers. -/
theorem AnswersAlike.of_glance (wellNamed : first.tree.WellNamed)
    (wellNamed' : second.tree.WellNamed)
    (same : ∀ name, '/' ∉ name.toList → second.tree.glance (directory.stubPath name) =
      first.tree.glance (directory.stubPath name)) : directory.AnswersAlike first second where
  listed := by
    obtain ⟨log, ran⟩ := directory.runIn_list first
    obtain ⟨log', ran'⟩ := directory.runIn_list second
    rw [ran, ran', names_congr wellNamed wellNamed']
    intro name level
    rw [isFile_eq_glance, isFile_eq_glance, same name level]
  held := by
    intro name
    unfold holds
    cases accepted : isStubName name with
    | false => rfl
    | true =>
        have level := (isStubName_iff.mp accepted).1.1
        rw [isFile_eq_glance, isFile_eq_glance, same name level]
  read := by
    intro name
    rw [result_read, result_read, text?_eq, text?_eq]
    cases accepted : isStubName name with
    | false => rfl
    | true =>
        have level := (isStubName_iff.mp accepted).1.1
        have seen : second.tree.exists? (directory.stubPath name) =
            first.tree.exists? (directory.stubPath name) := by
          rw [exists?_eq_glance, exists?_eq_glance, same name level]
        rw [seen]
        cases present : first.tree.exists? (directory.stubPath name) with
        | false => rfl
        | true => rw [readText_congr_glance (same name level) present]

/-- Two trees whose roots have the same children give the same answers, whatever else is in them. -/
theorem answers_contained (directory : StubDirectory) (first second : World)
    (limits : second.tree.limits = first.tree.limits)
    (wellNamed : first.tree.WellNamed) (wellNamed' : second.tree.WellNamed)
    {inside place : Location} {mode other : UInt32}
    (rooted : first.tree.find? directory.root = .ok (inside, .directory mode))
    (rooted' : second.tree.find? directory.root = .ok (place, .directory other))
    (unlinked : ∀ name target, first.tree.at? (name :: inside) ≠ some (.link target))
    (children : ∀ name, (second.tree.at? (name :: place)).map Entry.shape =
      (first.tree.at? (name :: inside)).map Entry.shape) :
    directory.AnswersAlike first second := by
  refine .of_glance wellNamed wellNamed' fun name level => ?_
  have proper := isName_fileName level
  have unlinked' (target : Path) : second.tree.at? (fileName name :: place) ≠ some (.link target) := by
    intro linked
    have shape := children (fileName name)
    rw [linked, Option.map_some, eq_comm, Option.map_eq_some_iff] at shape
    obtain ⟨entry, found, same⟩ := shape
    cases entry with
    | link target => exact unlinked _ _ found
    | directory _ => cases same
    | file _ => cases same
  have seen := glance_join proper rooted (unlinked _)
  have seen' := glance_join proper rooted' unlinked'
  rw [checkPath_congr limits, limits, children] at seen'
  exact seen'.trans seen.symm

/-- A directory `s` with a stub, a directory under the name of a stub and a hidden file in it. -/
def shelfTree : FileTree :=
  let root : Location := [Text.encode "s", Text.encode "w"]
  (((FileTree.fresh.place root (.directory 0o755)).place
    (fileName "a" :: root) (.file "text".toUTF8)).place
    (fileName "d" :: root) (.directory 0o755)).place
    (Text.encode ".h" :: root) (.file "text".toUTF8)

/-- The same directory with other files around it and below it, under names that lookups could lead
to if names were taken for paths. -/
def crowdedTree : FileTree :=
  let root : Location := [Text.encode "s", Text.encode "w"]
  (((shelfTree.place (fileName "b" :: root.tail) (.file "outside".toUTF8)).place
    (fileName "d" :: root) (.directory 0o700)).place
    (fileName "c" :: fileName "d" :: root) (.file "inside".toUTF8)).place
    [fileName "b"] (.file "outside".toUTF8)

theorem answers_contained_crowdedTree :
    shelfTree.LinkFree ∧ crowdedTree.LinkFree ∧
      shelfTree.find? (Path.ofString "s") =
        .ok ([Text.encode "s", Text.encode "w"], .directory 0o755) ∧
      crowdedTree.find? (Path.ofString "s") =
        .ok ([Text.encode "s", Text.encode "w"], .directory 0o755) ∧
      shelfTree.exists? (Path.ofString "s/../b.stub") = false ∧
      crowdedTree.exists? (Path.ofString "s/../b.stub") = true ∧
      AnswersAlike ⟨Path.ofString "s"⟩ (World.ofTree shelfTree) (World.ofTree crowdedTree) := by
  have plain : shelfTree.LinkFree := linkFree_of_entries (by decide +kernel)
  have rooted : shelfTree.find? (Path.ofString "s") =
      .ok ([Text.encode "s", Text.encode "w"], .directory 0o755) := by
    decide +kernel
  have rooted' : crowdedTree.find? (Path.ofString "s") =
      .ok ([Text.encode "s", Text.encode "w"], .directory 0o755) := by
    decide +kernel
  refine ⟨plain, linkFree_of_entries (by decide +kernel), rooted, rooted', by decide +kernel,
    by decide +kernel, ?_⟩
  refine answers_contained ⟨Path.ofString "s"⟩ (World.ofTree shelfTree) (World.ofTree crowdedTree)
    rfl (by decide +kernel) (by decide +kernel) rooted rooted' (fun _ => plain _) ?_
  exact shapes_of_childNames (by decide +kernel)

end StubDirectory

end Scaffold
