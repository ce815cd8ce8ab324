import Scaffold.Output
import Scaffold.Proofs.FileTree.Growth
import Scaffold.Proofs.FileTree.Replacing

/-! How a write ends.

A write has four exits: it is refused, the directory around its destination cannot be made, the file
cannot be put in place, or it is done. `Outcome` has a constructor for each with what is known of the
tree there, and `write_outcome` is the case analysis that all statements about writes start from. -/

set_option autoImplicit false

namespace Scaffold

open FileTree

variable {policy : WritePolicy} {path : Path} {content : String} {temporary : Name} {world : World}

namespace FileTree

theorem IsUnused.grown {mode : UInt32} {before after : FileTree}
    (grown : Grown mode (·.Around path) before after) (unused : before.IsUnused temporary)
    (unmentioned : temporary ∉ path.segments) : after.IsUnused temporary where
  proper := unused.proper
  absent := by
    intro directory
    cases found : after.at? (temporary :: directory) with
    | none => rfl
    | some entry =>
        obtain ⟨-, outer, around, made⟩ := grown.added _ _ (unused.absent directory) found
        obtain ⟨name, parent, same, member⟩ := made.named
        cases same
        have inside := around.steps_begin.subset member
        exact absurd (Path.mem_segments_of_steps inside) unmentioned

theorem Grown.alike {mode : UInt32} {kind : Path → Prop} {before between after : FileTree}
    (grown : Grown mode kind before between) (alike : Alike between after) :
    Grown mode kind before after where
  limits_eq := alike.limits_eq.trans grown.limits_eq
  workingDirectory_eq := alike.workingDirectory_eq.trans grown.workingDirectory_eq
  kept := fun location entry found => (alike.at?_eq location).trans (grown.kept location entry found)
  added := by
    intro location entry missing found
    rw [alike.at?_eq] at found
    obtain ⟨same, path, inside, made⟩ := grown.added location entry missing found
    refine ⟨same, path, inside, made.missing, ?_, made.named⟩
    exact FileTree.find?_mono alike.limits_eq alike.workingDirectory_eq
      (fun location entry present => (alike.at?_eq location).trans present) made.found

end FileTree

namespace WritePolicy

/-! ### The directory of the destination -/

/-- Make the directory that a path lies in, unless the path is written without one. -/
def prepareAround (policy : WritePolicy) (path : Path) : Action Failure Unit :=
  match path.parent? with
  | some parent => unless parent.isEmpty do policy.prepareDirectory parent
  | none => pure ()

/-- A directory that could not be made is not there, so its failure always counts. -/
theorem runIn_prepareDirectory (policy : WritePolicy) (path : Path) (world : World) :
    Action.runIn world (policy.prepareDirectory path) =
      if world.tree.isDirectory path then (.ok (), world)
      else match Action.runIn world (makeDirectories policy.directoryMode path.chain) with
        | (.ok (), next) => (.ok (),
            { next with log := next.log ++ [.createdDirectory path policy.directoryMode] })
        | (.error fault, next) => (.error (.directoryNotCreated path fault), next) := by
  rw [prepareDirectory, Action.runIn_tree_bind]
  cases world.tree.isDirectory path with
  | true => rfl
  | false =>
      simp only [Bool.false_eq_true, if_false]
      rw [Action.runIn_tryCatch, Action.runIn_bind, Action.runIn_withFailure]
      rcases ran : Action.runIn world (makeDirectories policy.directoryMode path.chain) with
        ⟨result, next⟩
      cases result with
      | ok _ => rfl
      | error fault =>
          have apart : next.tree.isDirectory path = false :=
            isDirectory_eq_false_of_makeDirectories ran
          simp only [Except.mapError, Action.runIn_tree_bind, apart]
          rfl

theorem prepareAround_grown (policy : WritePolicy) (path : Path) (world : World) :
    Grown policy.directoryMode (·.Around path) world.tree
        (Action.runIn world (policy.prepareAround path)).2.tree ∧
      ∀ cause, (Action.runIn world (policy.prepareAround path)).1 = .error cause →
        ∃ parent fault, path.parent? = some parent ∧ cause = .directoryNotCreated parent fault := by
  have unchanged : Grown policy.directoryMode (·.Around path) world.tree world.tree :=
    Grown.refl _ _ _
  have passed (cause : Failure) (failed : (Except.ok () : Except Failure Unit) = .error cause) :
      ∃ parent fault, path.parent? = some parent ∧ cause = .directoryNotCreated parent fault := by
    cases failed
  unfold prepareAround
  cases has : path.parent? with
  | none =>
      rw [has] at passed
      exact ⟨unchanged, passed⟩
  | some parent =>
      rw [has] at passed
      simp only
      cases parent.isEmpty with
      | true => exact ⟨unchanged, passed⟩
      | false =>
          rw [if_neg (by decide), runIn_prepareDirectory]
          have grown := (makeDirectories_grown policy.directoryMode parent.chain world).imp
            fun outer => Path.around_of_mem_ancestors has
          split
          · exact ⟨unchanged, passed⟩
          · rcases ran : Action.runIn world (makeDirectories policy.directoryMode parent.chain) with
              ⟨result, next⟩
            rw [ran] at grown
            cases result with
            | ok _ => exact ⟨grown, passed⟩
            | error fault =>
                refine ⟨grown, ?_⟩
                intro cause failed
                cases failed
                exact ⟨parent, fault, rfl, rfl⟩

theorem prepareAround_ok {prepared : World} {parent : Path} (has : path.parent? = some parent)
    (ran : Action.runIn world (policy.prepareAround path) = (.ok (), prepared)) :
    prepared = world ∨ parent.isEmpty = false ∧ world.tree.isDirectory parent = false ∧
      ∃ next, Action.runIn world (makeDirectories policy.directoryMode parent.chain) = (.ok (), next) ∧
        prepared.tree = next.tree := by
  rw [prepareAround, has] at ran
  simp only at ran
  split at ran
  · cases ran
    exact Or.inl rfl
  next named =>
    rw [runIn_prepareDirectory] at ran
    split at ran
    · cases ran
      exact Or.inl rfl
    next apart =>
        split at ran
        next next made =>
            cases ran
            exact Or.inr ⟨eq_false_of_ne_true named, eq_false_of_ne_true apart, next, made, rfl⟩
        next => cases ran

theorem prepareAround_took (policy : WritePolicy) (path : Path) (world : World) :
    ∃ steps, world.Took (Action.runIn world (policy.prepareAround path)).2 steps ∧
      ∀ step ∈ steps, step.makesDirectory = true := by
  have nothing : ∃ steps, world.Took world steps ∧ ∀ step ∈ steps, step.makesDirectory = true :=
    ⟨[], .refl world, nofun⟩
  unfold prepareAround
  cases path.parent? with
  | none => exact nothing
  | some parent =>
      simp only
      cases parent.isEmpty with
      | true => exact nothing
      | false =>
          rw [if_neg (by decide), runIn_prepareDirectory]
          split
          · exact nothing
          · obtain ⟨steps, took, make⟩ :=
              makeDirectories_took policy.directoryMode parent.chain world
            rcases ran : Action.runIn world (makeDirectories policy.directoryMode parent.chain) with
              ⟨result, next⟩
            rw [ran] at took
            cases result with
            | ok _ => exact ⟨steps, took.of_same rfl rfl, make⟩
            | error fault => exact ⟨steps, took, make⟩

/-- Where a path ends at an entry of the tree as it was, no directory is made around the path, unless
the path goes up again from one that was missing. -/
theorem prepared_eq_or_goes_up {prepared : World} {directory : Location} {name : Name} {entry : Entry}
    (ran : Action.runIn world (policy.prepareAround path) = (.ok (), prepared))
    (ends : prepared.tree.EndsAt path directory name)
    (present : world.tree.at? (name :: directory) = some entry) :
    prepared = world ∨ .up ∈ path.components ∧
      ∃ parent, path.parent? = some parent ∧ world.tree.isDirectory parent = false := by
  obtain ⟨-, parent, has, found⟩ := ends.find?_parent
  rcases prepareAround_ok has ran with same | ⟨named, apart, last, made, same⟩
  · exact Or.inl same
  · right
    refine ⟨?_, parent, has, apart⟩
    by_contra plain
    have level : .up ∉ parent.steps := fun member =>
      plain (List.mem_filter.mp ((Path.Around.parent has).steps_begin.subset member)).1
    obtain ⟨empty, -⟩ | ⟨-, mode, inside⟩ := found
    · rw [named] at empty
      cases empty
    · -- Then the directory is new, and nothing stood in it.
      rw [same] at inside
      have missing := at?_eq_none_of_makeDirectories level apart made inside
      exact not_isDirectory_of_none missing (isDirectory_of_at?_cons present)

/-! ### The whole write -/

theorem runIn_put (temporary : Name) (path : Path) (content : String) (world : World) :
    Action.runIn world (do
        Action.withFailure (Failure.notWritten path) (replaceWhole temporary path content.toUTF8)
        Action.report (.wroteFile path content.utf8ByteSize)) =
      match Action.runIn world (replaceWhole temporary path content.toUTF8) with
      | (.error fault, next) => (.error (.notWritten path fault), next)
      | (.ok (), next) => (.ok (),
          { next with log := next.log ++ [.wroteFile path content.utf8ByteSize] }) := by
  rw [Action.runIn_bind, Action.runIn_withFailure]
  rcases Action.runIn world (replaceWhole temporary path content.toUTF8) with ⟨result, next⟩
  cases result with
  | ok _ => rfl
  | error fault => rfl

theorem runIn_write (policy : WritePolicy) (temporary : Name) (path : Path) (content : String)
    (world : World) :
    Action.runIn world (policy.write temporary path content) =
      if !policy.mayReplace && world.tree.exists? path then (.error (.destinationExists path), world)
      else match Action.runIn world (policy.prepareAround path) with
        | (.error cause, next) => (.error cause, next)
        | (.ok (), prepared) => Action.runIn prepared (do
            Action.withFailure (.notWritten path) (replaceWhole temporary path content.toUTF8)
            Action.report (.wroteFile path content.utf8ByteSize)) := by
  rw [write, Action.runIn_tree_bind, prepareAround]
  cases !policy.mayReplace && world.tree.exists? path with
  | true => rfl
  | false =>
      simp only [Bool.false_eq_true, if_false]
      cases path.parent? with
      | none => rfl
      | some parent =>
          simp only
          cases parent.isEmpty with
          | true => rfl
          | false =>
              simp only [Bool.false_eq_true, if_false]
              rw [Action.runIn_bind]
              rcases Action.runIn world (policy.prepareDirectory parent) with ⟨result, next⟩
              cases result with
              | ok _ => rfl
              | error cause => rfl

theorem runIn_writeNew (policy : WritePolicy) (temporary : Name) (path : Path) (content : String)
    (world : World) :
    Action.runIn world (policy.writeNew temporary path content) =
      if world.tree.exists? path then
        (.ok false, { world with log := world.log ++ [.keptFile path] })
      else ((Action.runIn world (policy.write temporary path content)).1.map fun _ => true,
        (Action.runIn world (policy.write temporary path content)).2) := by
  rw [writeNew, Action.runIn_tree_bind]
  cases world.tree.exists? path with
  | true => rfl
  | false =>
      simp only [Bool.false_eq_true, if_false]
      rw [Action.runIn_bind]
      rcases Action.runIn world (policy.write temporary path content) with ⟨result, next⟩
      cases result with
      | ok _ => rfl
      | error cause => rfl

/-- How a write ends, and what is known of the tree there. -/
inductive Outcome (policy : WritePolicy) (temporary : Name) (path : Path) (content : String)
    (world : World) : Except Failure Unit × World → Prop
  | refused : policy.mayReplace = false → world.tree.exists? path = true →
      Outcome policy temporary path content world (.error (.destinationExists path), world)
  | stopped {parent : Path} {fault : Fault} {next : World} :
      path.parent? = some parent →
      Grown policy.directoryMode (·.Around path) world.tree next.tree →
      Outcome policy temporary path content world (.error (.directoryNotCreated parent fault), next)
  | unwritten {fault : Fault} {prepared next : World} :
      Action.runIn world (policy.prepareAround path) = (.ok (), prepared) →
      Grown policy.directoryMode (·.Around path) world.tree prepared.tree →
      Alike prepared.tree next.tree →
      Outcome policy temporary path content world (.error (.notWritten path fault), next)
  | written {prepared next : World} {directory : Location} {name : Name} :
      Action.runIn world (policy.prepareAround path) = (.ok (), prepared) →
      Grown policy.directoryMode (·.Around path) world.tree prepared.tree →
      prepared.tree.IsUnused temporary →
      prepared.tree.EndsAt path directory name →
      ¬ prepared.tree.IsDirectory (name :: directory) →
      Written prepared.tree next.tree (name :: directory) content.toUTF8 →
      Outcome policy temporary path content world (.ok (), next)

theorem write_outcome (policy : WritePolicy) (content : String)
    (unused : world.tree.IsUnused temporary) (unmentioned : temporary ∉ path.segments) :
    Outcome policy temporary path content world
      (Action.runIn world (policy.write temporary path content)) := by
  rw [runIn_write]
  cases refused : !policy.mayReplace && world.tree.exists? path with
  | true =>
      obtain ⟨careful, present⟩ := Bool.and_eq_true_iff.mp refused
      rw [if_pos rfl]
      exact .refused (Bool.not_inj careful) present
  | false =>
      rw [if_neg (by decide)]
      obtain ⟨grown, failed⟩ := prepareAround_grown policy path world
      rcases ran : Action.runIn world (policy.prepareAround path) with ⟨result, prepared⟩
      rw [ran] at grown failed
      cases result with
      | error cause =>
          obtain ⟨parent, fault, has, rfl⟩ := failed cause rfl
          exact .stopped has grown
      | ok _ =>
          simp only
          rw [runIn_put]
          have still := unused.grown grown unmentioned
          rcases replaceWhole_cases prepared path content.toUTF8 still with
            ⟨next, replaced, -, name, directory, ends, free, written⟩ | ⟨fault, next, replaced, alike⟩
          · rw [replaced]
            exact .written ran grown still ends free ⟨written.1, written.2, written.3⟩
          · rw [replaced]
            exact .unwritten ran grown alike

end WritePolicy

end Scaffold
