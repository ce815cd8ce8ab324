import Scaffold.FileTree.Arrange
import Scaffold.Proofs.FileTree.Landing

/-! Replacing what is at a path as a whole.

A name that no entry has serves for the temporary file. Then replacing has one effect or none: it
puts the content where the path lands, or it leaves every entry as it was, and in neither case does
the temporary file stay. Main statements: `replaceWhole_filling` says which steps are taken,
`replaceWhole_cases` what they come to. -/

set_option autoImplicit false

namespace Scaffold.FileTree

/-- A name that no entry has, and that no path can take for anything else. -/
structure IsUnused (tree : FileTree) (name : Name) : Prop where
  proper : Path.IsName name
  absent : ∀ directory, tree.at? (name :: directory) = none

theorem mem_entries_of_at?_cons {tree : FileTree} {name : Name} {parent : Location} {entry : Entry}
    (found : tree.at? (name :: parent) = some entry) : (name :: parent, entry) ∈ tree.entries := by
  obtain ⟨front, back, divided, -⟩ := List.lookup_eq_some_iff.mp found
  rw [divided]
  exact List.mem_append_right front List.mem_cons_self

theorem isUnused_of_not_mem_usedNames {tree : FileTree} {name : Name} (proper : Path.IsName name)
    (unused : name ∉ tree.usedNames) : tree.IsUnused name := by
  refine ⟨proper, ?_⟩
  intro directory
  cases found : tree.at? (name :: directory) with
  | none => rfl
  | some entry =>
      refine absurd (List.mem_flatMap.mpr ⟨_, mem_entries_of_at?_cons found, ?_⟩) unused
      cases entry with
      | link target => exact List.mem_append_left _ List.mem_cons_self
      | directory mode => exact List.mem_cons_self
      | file content => exact List.mem_cons_self

/-! ### The outcomes -/

structure Alike (before after : FileTree) : Prop where
  limits_eq : after.limits = before.limits
  workingDirectory_eq : after.workingDirectory = before.workingDirectory
  at?_eq : ∀ location, after.at? location = before.at? location

/-- A file is at one location, and nothing else is different. -/
structure Written (before after : FileTree) (location : Location) (content : ByteArray) :
    Prop where
  limits_eq : after.limits = before.limits
  workingDirectory_eq : after.workingDirectory = before.workingDirectory
  at?_eq : ∀ other, after.at? other =
    if other = location then some (.file content) else before.at? other

theorem Alike.refl (tree : FileTree) : Alike tree tree := ⟨rfl, rfl, fun _ => rfl⟩

variable {tree : FileTree} {path aside : Path} {name temporary : Name} {directory : Location}

/-! ### The temporary file -/

theorem createFile?_of_unused {before : List Component} {location : Location} {step : Step}
    (unused : tree.IsUnused temporary) (divided : aside.components = before ++ [.entry temporary])
    (created : tree.createFile? aside = .ok (location, step)) :
    ∃ directory, tree.EndsAt aside directory temporary ∧ location = temporary :: directory ∧
      step = .createFile (temporary :: directory) := by
  unfold createFile? resolve at created
  cases checked : tree.checkPath aside with
  | error fault => rw [checked] at created; cases created
  | ok =>
      rw [checked] at created
      simp only [bind, Except.bind] at created
      cases walked : tree.walk .create tree.limits.links (startOf tree.workingDirectory aside)
          aside.components with
      | error fault => rw [walked] at created; cases created
      | ok destination =>
          rw [walked] at created
          rw [divided] at walked
          obtain ⟨left, directory, leads, last⟩ :=
            exists_leads_of_walk (Or.inl (List.cons_ne_nil _ _)) walked
          have open' : ¬ (Intent.create = .create ∧ ([] : List Component) ≠ [] ∧
              ([] : List Component).all (· = .blank)) := fun closed => closed.2.1 rfl
          by_cases long : tree.limits.nameBytes < temporary.length
          · obtain ⟨fault, refused⟩ :=
              @walk_entry_refused tree .create left directory [] temporary (Or.inr long)
            rw [refused] at last
            cases last
          · rw [walk_entry open' long, unused.absent directory] at last
            cases last
            cases created
            exact ⟨directory, ⟨checked, long, before, left, divided, leads⟩, rfl, rfl⟩

theorem written_of_created (inside : tree.IsDirectory directory)
    (free : ¬ tree.IsDirectory (name :: directory)) (content : ByteArray) :
    Written tree ((tree.apply (.createFile (name :: directory))).apply
      (.append (name :: directory) content)) (name :: directory) content where
  limits_eq := (apply_frame _ _).1.trans (apply_frame _ _).1
  workingDirectory_eq := (apply_frame _ _).2.trans (apply_frame _ _).2
  at?_eq := by
    intro other
    have created := at?_createFile inside free
    have empty := created (name :: directory)
    rw [if_pos rfl] at empty
    rw [at?_append empty, created, ByteArray.empty_append]
    split
    · rfl
    · rfl

theorem written_of_unused (unused : tree.IsUnused temporary)
    (ends : tree.EndsAt aside directory temporary) (content : ByteArray) :
    Written tree ((tree.apply (.createFile (temporary :: directory))).apply
      (.append (temporary :: directory) content)) (temporary :: directory) content :=
  written_of_created ends.isDirectory (not_isDirectory_of_none (unused.absent directory)) content

theorem Written.at?_self {before after : FileTree} {location : Location} {content : ByteArray}
    (written : Written before after location content) :
    after.at? location = some (.file content) := by
  rw [written.at?_eq, if_pos rfl]

theorem Written.at?_ne_iff {before after : FileTree} {location other : Location}
    {content : ByteArray} {entry : Entry} (written : Written before after location content)
    (found : before.at? other = some entry) :
    after.at? other ≠ some entry ↔ other = location ∧ entry ≠ .file content := by
  rw [written.at?_eq]
  by_cases same : other = location
  · rw [if_pos same]
    constructor
    · intro changed
      exact ⟨same, fun equal => changed (congrArg some equal.symm)⟩
    · rintro ⟨-, differs⟩ equal
      exact differs (Option.some.inj equal).symm
  · rw [if_neg same]
    constructor
    · intro changed
      exact absurd found changed
    · rintro ⟨here, -⟩
      exact absurd here same

theorem Written.kept_of_missing {before after : FileTree} {location : Location}
    {content : ByteArray} (written : Written before after location content)
    (missing : before.at? location = none) {other : Location} {entry : Entry}
    (found : before.at? other = some entry) : after.at? other = some entry := by
  have apart : other ≠ location := by
    rintro rfl
    exact absurd (missing.symm.trans found) nofun
  rw [written.at?_eq, if_neg apart, found]

/-- Directories and links are kept where the file takes the place of neither. -/
theorem Written.kept_of_plain {before after : FileTree} {location : Location}
    {content : ByteArray} (written : Written before after location content)
    (free : ¬ before.IsDirectory location)
    (unlinked : ∀ target, before.at? location ≠ some (.link target)) {other : Location}
    {entry : Entry} (solid : entry.isFile = false) (found : before.at? other = some entry) :
    after.at? other = some entry := by
  have apart : other ≠ location := by
    rintro rfl
    cases entry with
    | directory mode => exact free ⟨mode, found⟩
    | file bytes => cases solid
    | link target => exact unlinked target found
  rw [written.at?_eq, if_neg apart, found]

theorem Written.alike_of_removed {before after : FileTree} {location : Location}
    {content : ByteArray} (written : Written before after location content)
    (missing : before.at? location = none) : Alike before (after.apply (.remove location)) where
  limits_eq := (apply_frame _ _).1.trans written.limits_eq
  workingDirectory_eq := (apply_frame _ _).2.trans written.workingDirectory_eq
  at?_eq := by
    intro other
    rw [at?_remove written.at?_self rfl]
    split
    next same => rw [same, missing]
    next apart => rw [written.at?_eq, if_neg apart]

/-! ### Taking the temporary file away -/

theorem runIn_discard_of_unused {ε : Type} {world : World} {before : List Component}
    (unused : world.tree.IsUnused temporary)
    (divided : aside.components = before ++ [.entry temporary]) :
    Action.runIn world (discard aside : Action ε Unit) = (.ok (), world) := by
  have refused : ∃ fault, world.tree.unlink? aside = .error fault := by
    unfold unlink?
    cases resolved : world.tree.resolveParent aside with
    | error fault => exact ⟨fault, rfl⟩
    | ok pair =>
        obtain ⟨directory, last⟩ := pair
        obtain ⟨-, front, split, -⟩ := resolveParent_eq_ok resolved
        rw [divided, splitLast_append_entry] at split
        cases split
        simp only [bind, Except.bind]
        rw [unused.absent directory]
        exact ⟨.notFound, rfl⟩
  obtain ⟨fault, refused⟩ := refused
  rw [discard, Action.runIn_tree_bind, refused]
  rfl

theorem runIn_discard_of_file {ε : Type} {world : World} {content : ByteArray}
    (ends : world.tree.EndsAt aside directory temporary)
    (found : world.tree.at? (temporary :: directory) = some (.file content)) :
    ∃ next, Action.runIn world (discard aside : Action ε Unit) = (.ok (), next) ∧
      world.Took next [.remove (temporary :: directory)] := by
  have removes : world.tree.unlink? aside = .ok (.remove (temporary :: directory)) := by
    rw [unlink?, ends.resolveParent_eq]
    simp only [bind, Except.bind]
    rw [found]
    rfl
  rw [discard, Action.runIn_tree_bind, removes]
  exact ⟨_, rfl, rfl, rfl⟩

/-! ### Moving the temporary file -/

theorem rename?_eq_ok {source : Path} {step : Step} {place : Location} {old : Name}
    (start : tree.EndsAt source place old) (renamed : tree.rename? source path = .ok step) :
    ∃ name directory, tree.EndsAt path directory name ∧ ¬ tree.IsDirectory (name :: directory) ∧
      step = .rename (old :: place) (name :: directory) := by
  unfold rename? at renamed
  rw [start.resolveParent_eq] at renamed
  cases resolved : tree.resolveParent path with
  | error fault => rw [resolved] at renamed; cases renamed
  | ok pair =>
      obtain ⟨directory, last⟩ := pair
      rw [resolved] at renamed
      cases last with
      | special => cases renamed
      | named name slash =>
          simp only [bind, Except.bind] at renamed
          rw [if_neg start.short] at renamed
          simp only [pure, Except.pure] at renamed
          cases there : tree.at? (old :: place) with
          | none => rw [there] at renamed; cases renamed
          | some entry =>
              rw [there] at renamed
              simp only at renamed
              by_cases short : tree.limits.nameBytes < name.length
              · rw [if_pos short] at renamed
                cases renamed
              · rw [if_neg short] at renamed
                cases slash with
                | true => cases renamed
                | false =>
                    rw [if_neg (by decide)] at renamed
                    by_cases taken : (tree.at? (name :: directory)).any Entry.isDirectory = true
                    · rw [if_pos taken] at renamed
                      cases renamed
                    · rw [if_neg taken] at renamed
                      cases renamed
                      refine ⟨name, directory, endsAt_of_resolveParent short resolved, ?_, rfl⟩
                      rintro ⟨mode, inside⟩
                      have same : tree.at? (name :: directory) = some (.directory mode) := inside
                      rw [same] at taken
                      exact taken rfl

/-! ### Replacing -/

/-- What the temporary file was made for: it stands in the directory that the path ends in, and
moving it from there to the path is all that is left to be seen. -/
theorem written_of_renamed {before midway : FileTree} {place : Location} {content : ByteArray}
    {step : Step} (unused : before.IsUnused temporary)
    (written : Written before midway (temporary :: place) content)
    (beside : before.EndsAt (path.withFileName temporary) place temporary)
    (renamed : midway.rename? (path.withFileName temporary) path = .ok step) :
    ∃ name directory, step = .rename (temporary :: place) (name :: directory) ∧
      before.EndsAt path directory name ∧ ¬ before.IsDirectory (name :: directory) ∧
      Written before (midway.apply step) (name :: directory) content := by
  have missing := unused.absent place
  have kept : ∀ location entry, entry.isFile = false → before.at? location = some entry →
      midway.at? location = some entry :=
    fun location entry _ => written.kept_of_missing missing
  have start := beside.mono written.limits_eq written.workingDirectory_eq kept
  obtain ⟨name, directory, ends, free, rfl⟩ := rename?_eq_ok start renamed
  obtain ⟨front, -, divided, -⟩ := ends.leads
  have checked := (checkPath_congr written.limits_eq path).symm.trans ends.checked
  have short : ¬ before.limits.nameBytes < name.length := by
    rw [← written.limits_eq]
    exact ends.short
  have ends' := beside.of_beside unused.proper checked short divided
  obtain ⟨-, rfl⟩ :=
    ends.unique (ends'.mono written.limits_eq written.workingDirectory_eq kept)
  refine ⟨name, directory, rfl, ends', ?_, (apply_frame _ _).1.trans written.limits_eq,
    (apply_frame _ _).2.trans written.workingDirectory_eq, ?_⟩
  · rintro ⟨mode, inside⟩
    exact free ⟨mode, written.kept_of_missing missing inside⟩
  · intro other
    rw [at?_rename written.at?_self ends.isDirectory free]
    split
    · rfl
    · split
      next same => rw [same, missing]
      next apart => rw [written.at?_eq, if_neg apart]

theorem runIn_writeWhole_of_ok {world : World} {location : Location} {step : Step}
    (content : ByteArray) (created : world.tree.createFile? path = .ok (location, step)) :
    ∃ next, Action.runIn world (writeWhole path content) =
        (if world.tree.limits.holds content then .ok () else .error .fileTooLarge, next) ∧
      world.Took next [step, .append location (world.tree.limits.part content)] := by
  rw [writeWhole, Action.runIn_tree_bind, created]
  cases world.tree.limits.holds content with
  | true => exact ⟨_, rfl, rfl, List.append_assoc _ _ _⟩
  | false => exact ⟨_, rfl, rfl, List.append_assoc _ _ _⟩

theorem runIn_writeWhole_of_error {world : World} {content : ByteArray} {fault : Fault}
    (refused : world.tree.createFile? path = .error fault) :
    Action.runIn world (writeWhole path content) = (.error fault, world) := by
  rw [writeWhole, Action.runIn_tree_bind, refused]
  rfl

/-- A temporary file is filled as far as it goes in the directory that its path ends in, and can be
taken away from there. -/
theorem exists_filled_beside {world : World} {place : Location} (content : ByteArray)
    (unused : world.tree.IsUnused temporary) (beside : world.tree.EndsAt aside place temporary)
    (created : world.tree.createFile? aside =
      .ok (temporary :: place, .createFile (temporary :: place))) :
    ∃ midway, Action.runIn world (writeWhole aside content) =
        (if world.tree.limits.holds content then .ok () else .error .fileTooLarge, midway) ∧
      world.Took midway [.createFile (temporary :: place),
        .append (temporary :: place) (world.tree.limits.part content)] ∧
      Written world.tree midway.tree (temporary :: place) (world.tree.limits.part content) ∧
      midway.tree.EndsAt aside place temporary ∧
      ∃ next, Action.runIn midway (discard aside : Action Fault Unit) = (.ok (), next) ∧
        midway.Took next [.remove (temporary :: place)] := by
  obtain ⟨midway, ran, filled⟩ := runIn_writeWhole_of_ok content created
  have written : Written world.tree midway.tree (temporary :: place)
      (world.tree.limits.part content) := by
    rw [filled.tree_eq]
    exact written_of_unused unused beside _
  have ends := beside.mono written.limits_eq written.workingDirectory_eq
    fun location entry _ => written.kept_of_missing (unused.absent place)
  exact ⟨midway, ran, filled, written, ends, runIn_discard_of_file ends written.at?_self⟩

/-- How replacing ends, with the steps that it takes. Nothing is done where no temporary file can be
made; the temporary file is removed where it does not hold the content or cannot be moved to the
path. -/
inductive Filling (temporary : Name) (path : Path) (content : ByteArray) (tree : FileTree) :
    Except Fault Unit → List Step → Prop
  | refused {fault : Fault} : Filling temporary path content tree (.error fault) []
  | abandoned {fault : Fault} {place : Location} :
      tree.EndsAt (path.withFileName temporary) place temporary →
      Filling temporary path content tree (.error fault)
        [.createFile (temporary :: place), .append (temporary :: place) (tree.limits.part content),
          .remove (temporary :: place)]
  | put {place directory : Location} {name : Name} {steps : List Step} :
      tree.limits.holds content = true →
      tree.EndsAt (path.withFileName temporary) place temporary →
      tree.EndsAt path directory name →
      ¬ tree.IsDirectory (name :: directory) →
      steps = [.createFile (temporary :: place), .append (temporary :: place) content,
        .rename (temporary :: place) (name :: directory)] →
      Written tree (tree.applyAll steps) (name :: directory) content →
      Filling temporary path content tree (.ok ()) steps

theorem replaceWhole_filling (world : World) (path : Path) (content : ByteArray)
    (unused : world.tree.IsUnused temporary) :
    ∃ steps, world.Took (Action.runIn world (replaceWhole temporary path content)).2 steps ∧
      Filling temporary path content world.tree
        (Action.runIn world (replaceWhole temporary path content)).1 steps := by
  obtain ⟨before, divided⟩ := @Path.components_withFileName path temporary unused.proper
  rw [replaceWhole, Action.runIn_tryCatch, Action.runIn_bind]
  cases created : world.tree.createFile? (path.withFileName temporary) with
  | error fault =>
      rw [runIn_writeWhole_of_error created]
      simp only
      rw [Action.runIn_bind_of_ok (runIn_discard_of_unused unused divided)]
      exact ⟨[], .refl world, .refused⟩
  | ok pair =>
      obtain ⟨location, step⟩ := pair
      obtain ⟨place, beside, rfl, rfl⟩ := createFile?_of_unused unused divided created
      obtain ⟨midway, ran, filled, written, -, next, discarded, removed⟩ :=
        exists_filled_beside content unused beside created
      rw [ran]
      cases held : world.tree.limits.holds content with
      | false =>
          rw [if_neg (by decide)]
          simp only
          rw [Action.runIn_bind_of_ok discarded]
          exact ⟨_, filled.trans removed, .abandoned beside⟩
      | true =>
          rw [if_pos rfl]
          simp only
          rw [renameFile, Action.runIn_tree_bind]
          cases renamed : midway.tree.rename? (path.withFileName temporary) path with
          | ok step =>
              rw [Limits.part_of_holds held] at filled written
              obtain ⟨name, directory, rfl, ends, free, whole⟩ :=
                written_of_renamed unused written beside renamed
              have moved := filled.trans (World.Took.perform midway
                (.rename (temporary :: place) (name :: directory)))
              refine ⟨_, moved, .put held beside ends free rfl ?_⟩
              rw [filled.tree_eq] at whole
              exact whole
          | error fault =>
              rw [Action.ofExcept, Action.runIn_bind]
              simp only [Action.runIn_throw]
              rw [Action.runIn_bind_of_ok discarded]
              exact ⟨_, filled.trans removed, .abandoned beside⟩

/-- Replacing puts the content where the path lands and changes nothing else, or it fails and leaves
every entry as it was. -/
theorem replaceWhole_cases (world : World) (path : Path) (content : ByteArray)
    (unused : world.tree.IsUnused temporary) :
    (∃ next, Action.runIn world (replaceWhole temporary path content) = (.ok (), next) ∧
      world.tree.limits.holds content = true ∧
      ∃ name directory, world.tree.EndsAt path directory name ∧
        ¬ world.tree.IsDirectory (name :: directory) ∧
        Written world.tree next.tree (name :: directory) content) ∨
    ∃ cause next, Action.runIn world (replaceWhole temporary path content) = (.error cause, next) ∧
      Alike world.tree next.tree := by
  obtain ⟨steps, took, filling⟩ := replaceWhole_filling world path content unused
  rcases ran : Action.runIn world (replaceWhole temporary path content) with ⟨result, next⟩
  rw [ran] at took filling
  cases filling with
  | refused =>
      refine Or.inr ⟨_, next, rfl, ?_⟩
      rw [took.tree_eq]
      exact Alike.refl world.tree
  | @abandoned _ place beside =>
      refine Or.inr ⟨_, next, rfl, ?_⟩
      rw [took.tree_eq]
      exact (written_of_unused unused beside _).alike_of_removed (unused.absent place)
  | put held _ ends free _ written =>
      rw [← took.tree_eq] at written
      exact Or.inl ⟨next, rfl, held, _, _, ends, free, written⟩

end Scaffold.FileTree
