import Scaffold.Proofs.FileTree.Children
import Scaffold.Proofs.FileTree.LinkFree
import Scaffold.Proofs.Output.FirstWriter

/-! What a write can change in a tree without links.

Whatever a write comes to, it changes nothing but what is where its path or a path of a directory
around it leads, and it makes no link. Main statement: `write_confined`. -/

set_option autoImplicit false

namespace Scaffold

theorem Path.Around.level {outer path : Path} (around : outer.Around path)
    (level : .up ∉ path.components) : .up ∉ outer.components := by
  rw [← Path.up_mem_steps_iff] at level ⊢
  exact fun member => level (around.steps_begin.subset member)

theorem Path.Around.isAbsolute_eq {outer path : Path} (around : outer.Around path) :
    outer.isAbsolute = path.isAbsolute := by
  induction around with
  | parent has => exact isAbsolute_of_parent? has
  | further has _ ih => exact ih.trans (isAbsolute_of_parent? has)

namespace FileTree

variable {before between after tree : FileTree} {path outer : Path} {location directory : Location}
  {name : Name} {content : ByteArray} {mode : UInt32}

/-! ### Trees without links -/

theorem LinkFree.alike (linkFree : before.LinkFree) (alike : Alike before after) :
    after.LinkFree := by
  intro location target
  rw [alike.at?_eq]
  exact linkFree location target

theorem LinkFree.grown {kind : Path → Prop} (linkFree : before.LinkFree)
    (grown : Grown mode kind before after) : after.LinkFree := by
  intro location target linked
  have free : ¬ after.IsDirectory location := not_isDirectory_of_leaf linked rfl
  exact linkFree location target ((grown.at?_eq_of_free free).symm.trans linked)

theorem LinkFree.written (linkFree : before.LinkFree)
    (written : Written before after location content) : after.LinkFree := by
  intro other target
  rw [written.at?_eq]
  split
  · exact nofun
  · exact linkFree other target

/-! ### The bit that directories are made with -/

theorem groupBit_of_same_directories
    (same : ∀ location mode, after.at? location = some (.directory mode) ↔
      before.at? location = some (.directory mode)) (location : Location) :
    after.groupBit location = before.groupBit location := by
  refine groupBit_congr ?_ ?_ location
  · intro other inside
    obtain ⟨mode, found⟩ := inside
    exact ⟨mode, (same other mode).mpr found⟩
  · intro other mode found
    exact (groupBit_of_directory ((same other mode).mp found)).symm

theorem Alike.groupBit_eq (alike : Alike before after) (location : Location) :
    after.groupBit location = before.groupBit location :=
  groupBit_of_same_directories (fun other _ => by rw [alike.at?_eq other]) location

theorem Written.groupBit_eq (written : Written before after directory content)
    (free : ¬ before.IsDirectory directory) (location : Location) :
    after.groupBit location = before.groupBit location := by
  refine groupBit_of_same_directories (fun other mode => ?_) location
  rw [written.at?_eq]
  split
  next same =>
      rw [same]
      exact ⟨nofun, fun found => absurd ⟨mode, found⟩ free⟩
  next => rfl

theorem spot_congr (place : after.workingDirectory = before.workingDirectory) (path : Path) :
    after.spot path = before.spot path := by
  rw [spot, spot, place]

/-! ### What lies along a path -/

def Along (tree : FileTree) (path : Path) (location : Location) : Prop :=
  ∃ outer, (outer = path ∨ outer.Around path) ∧ tree.spot outer = location

theorem along_congr (place : after.workingDirectory = before.workingDirectory) :
    after.Along path location ↔ before.Along path location := by
  simp only [Along, spot_congr place]

theorem Along.exists_names (along : tree.Along path location) :
    ∃ front, front <+: path.names ∧
      location = front.reverse ++ startOf tree.workingDirectory path := by
  obtain ⟨outer, around, rfl⟩ := along
  refine ⟨outer.names, ?_, ?_⟩
  · rw [Path.names_eq_of_steps, Path.names_eq_of_steps]
    rcases around with rfl | around
    · exact List.prefix_refl _
    · exact around.steps_begin.filterMap _
  · rcases around with rfl | around
    · rfl
    · rw [spot, startOf, startOf, around.isAbsolute_eq]

/-- All that is different in a tree lies along a path, and nothing in it is a link. -/
structure Confined (path : Path) (before after : FileTree) : Prop where
  limits_eq : after.limits = before.limits
  workingDirectory_eq : after.workingDirectory = before.workingDirectory
  linkFree : after.LinkFree
  groupBit_eq : ∀ location, after.groupBit location = before.groupBit location
  at?_eq : ∀ location, ¬ before.Along path location → after.at? location = before.at? location

namespace Confined

theorem refl (linkFree : tree.LinkFree) (path : Path) : Confined path tree tree :=
  ⟨rfl, rfl, linkFree, fun _ => rfl, fun _ _ => rfl⟩

theorem of_grown (linkFree : before.LinkFree) (level : .up ∉ path.components)
    (grown : Grown mode (·.Around path) before after) : Confined path before after where
  limits_eq := grown.limits_eq
  workingDirectory_eq := grown.workingDirectory_eq
  linkFree := linkFree.grown grown
  groupBit_eq := grown.groupBit_eq
  at?_eq := by
    intro location outside
    cases missing : before.at? location with
    | some entry => exact grown.kept location entry missing
    | none =>
        cases found : after.at? location with
        | none => rfl
        | some entry =>
            obtain ⟨-, outer, around, made⟩ := grown.added location entry missing found
            obtain ⟨-, -, same, -⟩ :=
              (find?_eq_ok_iff_spot (linkFree.grown grown) (around.level level)).mp made.found
            rw [spot_congr grown.workingDirectory_eq] at same
            exact absurd ⟨outer, Or.inr around, same.symm⟩ outside

theorem alike (confined : Confined path before between) (alike : Alike between after) :
    Confined path before after where
  limits_eq := alike.limits_eq.trans confined.limits_eq
  workingDirectory_eq := alike.workingDirectory_eq.trans confined.workingDirectory_eq
  linkFree := confined.linkFree.alike alike
  groupBit_eq := fun location =>
    (alike.groupBit_eq location).trans (confined.groupBit_eq location)
  at?_eq := fun location outside => (alike.at?_eq location).trans (confined.at?_eq location outside)

theorem written (confined : Confined path before between) (level : .up ∉ path.components)
    (ends : between.EndsAt path directory name) (free : ¬ between.IsDirectory (name :: directory))
    (written : Written between after (name :: directory) content) : Confined path before after where
  limits_eq := written.limits_eq.trans confined.limits_eq
  workingDirectory_eq := written.workingDirectory_eq.trans confined.workingDirectory_eq
  linkFree := confined.linkFree.written written
  groupBit_eq := fun location =>
    (written.groupBit_eq free location).trans (confined.groupBit_eq location)
  at?_eq := by
    intro location outside
    have place := ends.spot_eq confined.linkFree level
    rw [spot_congr confined.workingDirectory_eq] at place
    have apart : location ≠ name :: directory := by
      rintro rfl
      exact outside ⟨path, Or.inl rfl, place⟩
    rw [written.at?_eq, if_neg apart, confined.at?_eq location outside]

theorem named (confined : Confined path before after) {entry : Entry}
    (missing : before.at? (name :: directory) = none)
    (found : after.at? (name :: directory) = some entry) : .entry name ∈ path.steps := by
  by_contra unmentioned
  have outside : ¬ before.Along path (name :: directory) := by
    intro along
    obtain ⟨front, begins, place⟩ := along.exists_names
    cases last : front.reverse with
    | nil =>
        -- Where resolution starts there is a directory.
        rw [last, List.nil_append] at place
        have inside := IsDirectory.startOf before.working_directory path
        rw [← place] at inside
        exact not_isDirectory_of_none missing inside
    | cons first further =>
        rw [last] at place
        cases place
        have member : name ∈ front := by
          rw [← List.mem_reverse, last]
          exact List.mem_cons_self
        have inside := begins.subset member
        rw [Path.names_eq_of_steps] at inside
        exact unmentioned (Path.mem_namesOf_iff.mp inside)
  rw [confined.at?_eq _ outside, missing] at found
  cases found

theorem isUnused (confined : Confined path before after) (unused : before.IsUnused name)
    (unmentioned : name ∉ path.segments) : after.IsUnused name where
  proper := unused.proper
  absent := by
    intro directory
    cases found : after.at? (name :: directory) with
    | none => rfl
    | some entry =>
        have inside := confined.named (unused.absent directory) found
        exact absurd (Path.mem_segments_of_steps inside) unmentioned

theorem wellNamed (confined : Confined path before after) (wellNamed : before.WellNamed) :
    after.WellNamed := by
  intro directory name member
  obtain ⟨entry, found⟩ := mem_childNames_iff.mp member
  cases earlier : before.at? (name :: directory) with
  | some present => exact wellNamed directory name (mem_childNames_iff.mpr ⟨present, earlier⟩)
  | none => exact Path.isName_of_mem_steps (confined.named earlier found)

end Confined

end FileTree

open FileTree

variable {world : World}

/-- Whatever a write comes to, it changes nothing that does not lie along its path. -/
theorem WritePolicy.write_confined {temporary : Name} {path : Path} (policy : WritePolicy)
    (content : String) (linkFree : world.tree.LinkFree) (level : .up ∉ path.components)
    (unused : world.tree.IsUnused temporary) (unmentioned : temporary ∉ path.segments) :
    Confined path world.tree
      (Action.runIn world (policy.write temporary path content)).2.tree := by
  have outcome := write_outcome policy content unused unmentioned
  rcases ran : Action.runIn world (policy.write temporary path content) with ⟨result, next⟩
  rw [ran] at outcome
  cases outcome with
  | refused _ _ => exact .refl linkFree path
  | stopped _ grown => exact .of_grown linkFree level grown
  | unwritten _ grown alike => exact (Confined.of_grown linkFree level grown).alike alike
  | written _ grown _ ends free written =>
      exact (Confined.of_grown linkFree level grown).written level ends free written

theorem WriteCall.next_confined {call : WriteCall} (linkFree : world.tree.LinkFree)
    (level : .up ∉ call.path.components) (unused : world.tree.IsUnused call.temporary)
    (unmentioned : call.temporary ∉ call.path.segments) :
    Confined call.path world.tree (call.next world).tree := by
  rw [next, runIn_action]
  split
  · exact .refl linkFree call.path
  · exact call.policy.write_confined call.content linkFree level unused unmentioned

end Scaffold
