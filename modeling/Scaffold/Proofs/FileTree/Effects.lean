import Scaffold.FileTree.Step
import Scaffold.Proofs.FileTree.Leading

/-! What single steps change.

Each law says what is at every location after a step that the tree allows. Nothing lies below a file
or a link, so removing one removes nothing else. A sequence of steps that make directories keeps
every entry. -/

set_option autoImplicit false

namespace Scaffold

def Step.makesDirectory : Step → Bool
  | .makeDirectory _ _ => true
  | _ => false

namespace FileTree

/-! ### What no step changes -/

theorem place_frame (tree : FileTree) (location : Location) (entry : Entry) :
    (tree.place location entry).limits = tree.limits ∧
      (tree.place location entry).workingDirectory = tree.workingDirectory := by
  unfold place
  split
  · exact ⟨rfl, rfl⟩
  · exact ⟨rfl, rfl⟩

theorem prune_frame (tree : FileTree) (location : Location) :
    (tree.prune location).limits = tree.limits ∧
      (tree.prune location).workingDirectory = tree.workingDirectory := by
  unfold prune
  split
  · exact ⟨rfl, rfl⟩
  · exact ⟨rfl, rfl⟩

theorem apply_frame (tree : FileTree) (step : Step) :
    (tree.apply step).limits = tree.limits ∧
      (tree.apply step).workingDirectory = tree.workingDirectory := by
  cases step with
  | makeDirectory location mode =>
      rw [apply]
      split
      · exact place_frame tree location _
      · exact ⟨rfl, rfl⟩
  | createFile location => exact place_frame tree location _
  | append location content =>
      rw [apply]
      split
      · exact place_frame tree location _
      · exact ⟨rfl, rfl⟩
  | rename source destination =>
      rw [apply]
      split
      · rw [(place_frame _ _ _).1, (place_frame _ _ _).2]
        exact prune_frame tree source
      · exact ⟨rfl, rfl⟩
  | remove location =>
      rw [apply]
      split
      · exact prune_frame tree location
      · exact prune_frame tree location
      · exact ⟨rfl, rfl⟩

variable {tree : FileTree} {name : Name} {directory location : Location}

/-! ### Files and links have nothing below them -/

theorem not_isDirectory_of_leaf {entry : Entry} (found : tree.at? location = some entry)
    (leaf : entry.isDirectory = false) : ¬ tree.IsDirectory location := by
  rintro ⟨mode, inside⟩
  have same : tree.at? location = some (.directory mode) := inside
  rw [found] at same
  cases same
  cases leaf

theorem at?_below_leaf {entry : Entry} (found : tree.at? location = some entry)
    (leaf : entry.isDirectory = false) {other : Location} (within : isWithin other location = true)
    (apart : other ≠ location) : tree.at? other = none := by
  rw [isWithin, List.isSuffixOf_iff_suffix] at within
  induction other with
  | nil => exact absurd (List.suffix_nil.mp within).symm apart
  | cons name parent ih =>
      have deeper : location <:+ parent :=
        (List.suffix_cons_iff.mp within).resolve_left apart.symm
      cases below : tree.at? (name :: parent) with
      | none => rfl
      | some present =>
          have inside := isDirectory_of_at?_cons below
          by_cases same : parent = location
          · rw [same] at inside
            exact absurd inside (not_isDirectory_of_leaf found leaf)
          · obtain ⟨mode, there⟩ := inside
            have impossible := (ih deeper same).symm.trans there
            cases impossible

theorem at?_prune_leaf {entry : Entry} (found : tree.at? location = some entry)
    (leaf : entry.isDirectory = false) (other : Location) :
    (tree.prune location).at? other = if other = location then none else tree.at? other := by
  obtain ⟨name, parent, nested⟩ : ∃ name parent, location = name :: parent := by
    cases location with
    | nil => cases found; cases leaf
    | cons name parent => exact ⟨name, parent, rfl⟩
  have outside : isWithin tree.workingDirectory location = false := by
    rw [← Bool.not_eq_true]
    intro within
    have inside : tree.IsDirectory tree.workingDirectory := tree.working_directory
    by_cases same : tree.workingDirectory = location
    · rw [same] at inside
      exact not_isDirectory_of_leaf found leaf inside
    · obtain ⟨mode, there⟩ := inside
      exact absurd ((at?_below_leaf found leaf within same).symm.trans there) nofun
  rw [at?_prune nested outside]
  by_cases same : other = location
  · have itself : isWithin other location = true := by
      rw [same]
      exact List.isSuffixOf_iff_suffix.mpr (List.suffix_refl location)
    rw [if_pos itself, if_pos same]
  · rw [if_neg same]
    cases within : isWithin other location with
    | false => rfl
    | true => exact (at?_below_leaf found leaf within same).symm

/-! ### The law of each step -/

theorem admits_leaf {entry : Entry} (inside : tree.IsDirectory directory)
    (free : ¬ tree.IsDirectory (name :: directory)) : tree.Admits (name :: directory) entry :=
  ⟨name, directory, rfl, inside, fun taken => absurd taken free⟩

theorem not_isDirectory_of_none (missing : tree.at? location = none) :
    ¬ tree.IsDirectory location := by
  rintro ⟨mode, there⟩
  exact absurd (missing.symm.trans there) nofun

theorem at?_makeDirectory (inside : tree.IsDirectory directory)
    (missing : tree.at? (name :: directory) = none) (mode : UInt32) (other : Location) :
    (tree.apply (.makeDirectory (name :: directory) mode)).at? other =
      if other = name :: directory then some (.directory mode) else tree.at? other := by
  rw [apply, missing]
  exact at?_place (admits_leaf inside (not_isDirectory_of_none missing)) other

theorem at?_createFile (inside : tree.IsDirectory directory)
    (free : ¬ tree.IsDirectory (name :: directory)) (other : Location) :
    (tree.apply (.createFile (name :: directory))).at? other =
      if other = name :: directory then some (.file ByteArray.empty) else tree.at? other :=
  at?_place (admits_leaf inside free) other

theorem at?_append {before : ByteArray} (found : tree.at? location = some (.file before))
    (content : ByteArray) (other : Location) :
    (tree.apply (.append location content)).at? other =
      if other = location then some (.file (before ++ content)) else tree.at? other := by
  rw [apply, found]
  cases location with
  | nil => cases found
  | cons name parent =>
      exact at?_place (admits_leaf (isDirectory_of_at?_cons found)
        (not_isDirectory_of_leaf found rfl)) other

theorem at?_remove {entry : Entry} (found : tree.at? location = some entry)
    (leaf : entry.isDirectory = false) (other : Location) :
    (tree.apply (.remove location)).at? other =
      if other = location then none else tree.at? other := by
  have pruned := at?_prune_leaf found leaf other
  rw [apply, found]
  cases entry with
  | directory mode => cases leaf
  | file content => exact pruned
  | link target => exact pruned

theorem at?_rename {source : Location} {content : ByteArray}
    (found : tree.at? source = some (.file content)) (inside : tree.IsDirectory directory)
    (free : ¬ tree.IsDirectory (name :: directory)) (other : Location) :
    (tree.apply (.rename source (name :: directory))).at? other =
      if other = name :: directory then some (.file content)
      else if other = source then none else tree.at? other := by
  have pruned := at?_prune_leaf found rfl
  have unchanged : (tree.at? (name :: directory)).any Entry.isDirectory = false := by
    cases there : tree.at? (name :: directory) with
    | none => rfl
    | some entry =>
        cases entry with
        | directory mode => exact absurd ⟨mode, there⟩ free
        | file _ => rfl
        | link _ => rfl
  have still : (tree.prune source).IsDirectory directory := by
    obtain ⟨mode, there⟩ := inside
    refine ⟨mode, (pruned directory).trans ?_⟩
    rw [if_neg]
    · exact there
    · rintro rfl
      exact absurd (found.symm.trans there) nofun
  have free' : ¬ (tree.prune source).IsDirectory (name :: directory) := by
    rintro ⟨mode, there⟩
    have shown := (pruned (name :: directory)).symm.trans there
    split at shown
    · cases shown
    · exact free ⟨mode, shown⟩
  rw [apply, found, unchanged]
  simp only
  rw [at?_place (admits_leaf still free'), pruned]

/-! ### The mode of a new directory -/

theorem groupBit_of_directory {mode : UInt32} (found : tree.at? location = some (.directory mode)) :
    tree.groupBit location = mode &&& groupIdBit := by
  cases location with
  | nil =>
      cases found
      rfl
  | cons name parent => rw [groupBit, found]

theorem groupBit_of_free (free : ¬ tree.IsDirectory (name :: directory)) :
    tree.groupBit (name :: directory) = tree.groupBit directory := by
  rw [groupBit]
  split
  next mode found => exact absurd ⟨mode, found⟩ free
  next => rfl

theorem groupBit_and (tree : FileTree) (location : Location) :
    tree.groupBit location &&& groupIdBit = tree.groupBit location := by
  induction location with
  | nil => rw [groupBit, UInt32.and_assoc, UInt32.and_self]
  | cons name parent ih =>
      rw [groupBit]
      split
      · rw [UInt32.and_assoc, UInt32.and_self]
      · exact ih

/-- A directory that is made has the bits asked for, as far as they can be, and the set-group-ID bit
of the directory around it. -/
theorem newMode_and (tree : FileTree) (mode : UInt32) (location : Location) :
    tree.newMode mode location &&& directoryModeMask = mode &&& directoryModeMask ∧
      tree.newMode mode location &&& groupIdBit = tree.groupBit location := by
  have apart : groupIdBit &&& directoryModeMask = 0 := by decide
  have divided (first second mask : UInt32) :
      (first ||| second) &&& mask = first &&& mask ||| second &&& mask :=
    UInt32.toBitVec_inj.mp BitVec.and_or_distrib_right
  constructor
  · rw [newMode, divided, ← groupBit_and, UInt32.and_assoc, UInt32.and_assoc, UInt32.and_self,
      apart, UInt32.and_zero, UInt32.or_zero]
  · rw [newMode, divided, groupBit_and, UInt32.and_assoc, UInt32.and_comm directoryModeMask, apart,
      UInt32.and_zero, UInt32.zero_or]

example : (fresh.place [Text.encode "g", Text.encode "w"] (.directory 0o2755)).makeDirectory?
    (Path.ofString "g/a") 0o4700 =
      .ok (.makeDirectory [Text.encode "a", Text.encode "g", Text.encode "w"] 0o2700) := by
  decide +kernel

theorem newMode_congr {before after : FileTree}
    (same : after.groupBit location = before.groupBit location) (mode : UInt32) :
    after.newMode mode location = before.newMode mode location := by
  rw [newMode, newMode, same]

/-- Directories that are made with the bit of the one around them change no such bit. -/
theorem groupBit_congr {before after : FileTree}
    (kept : ∀ location, before.IsDirectory location → after.IsDirectory location)
    (bits : ∀ location mode, after.at? location = some (.directory mode) →
      mode &&& groupIdBit = before.groupBit location) (location : Location) :
    after.groupBit location = before.groupBit location := by
  induction location with
  | nil => rfl
  | cons name parent ih =>
      by_cases inside : after.IsDirectory (name :: parent)
      · obtain ⟨mode, found⟩ := inside
        rw [groupBit_of_directory found, bits _ _ found]
      · rw [groupBit_of_free inside, groupBit_of_free fun there => inside (kept _ there), ih]

/-- Where all entries are kept and directories are made for one mode, further ones would be made with
the same bits as before. -/
theorem groupBit_eq_of_made {before after : FileTree} (mode : UInt32)
    (kept : ∀ location entry, before.at? location = some entry → after.at? location = some entry)
    (made : ∀ location entry, before.at? location = none → after.at? location = some entry →
      entry = .directory (before.newMode mode location)) (location : Location) :
    after.groupBit location = before.groupBit location := by
  refine groupBit_congr ?_ ?_ location
  · intro other inside
    obtain ⟨present, found⟩ := inside
    exact ⟨present, kept other _ found⟩
  · intro other present found
    cases earlier : before.at? other with
    | none =>
        cases made other _ earlier found
        exact (newMode_and before mode other).2
    | some entry =>
        cases (kept other entry earlier).symm.trans found
        exact (groupBit_of_directory earlier).symm

/-! ### Sequences of steps -/

theorem applyAll_frame (tree : FileTree) (steps : List Step) :
    (tree.applyAll steps).limits = tree.limits ∧
      (tree.applyAll steps).workingDirectory = tree.workingDirectory := by
  induction steps generalizing tree with
  | nil => exact ⟨rfl, rfl⟩
  | cons step steps ih =>
      obtain ⟨limits, place⟩ := ih (tree.apply step)
      exact ⟨limits.trans (apply_frame tree step).1, place.trans (apply_frame tree step).2⟩

theorem at?_apply_of_makesDirectory {step : Step} {entry : Entry}
    (makes : step.makesDirectory = true) (found : tree.at? location = some entry) :
    (tree.apply step).at? location = some entry := by
  cases step with
  | makeDirectory place mode =>
      rw [apply]
      cases there : tree.at? place with
      | some present => exact found
      | none =>
          by_cases admitted : tree.Admits place (.directory mode)
          · have apart : location ≠ place := by
              rintro rfl
              exact absurd (found.symm.trans there) nofun
            exact (at?_place admitted location).trans ((if_neg apart).trans found)
          · exact (congrArg (at? · location) (place_of_not_admits admitted)).trans found
  | _ => cases makes

theorem at?_applyAll_of_makesDirectory {steps : List Step} {entry : Entry}
    (make : ∀ step ∈ steps, step.makesDirectory = true)
    (found : tree.at? location = some entry) :
    (tree.applyAll steps).at? location = some entry := by
  induction steps generalizing tree with
  | nil => exact found
  | cons step steps ih =>
      exact ih (fun other member => make other (List.mem_cons_of_mem _ member))
        (at?_apply_of_makesDirectory (make step List.mem_cons_self) found)

end FileTree

end Scaffold
