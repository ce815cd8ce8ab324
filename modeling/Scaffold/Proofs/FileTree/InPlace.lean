import Scaffold.Proofs.FileTree.Replacing

/-! Writing what is at a path in place.

A path is resolved for creating before the file is written and for inspecting when it is read. Both
end at one location, because a file where none was, or another file than before, changes nothing for
the components before it (`Ends.filled`). Main statements: `writeWhole_putInPlace` and, for a content
that is too large for a file, `writeWhole_of_error`. -/

set_option autoImplicit false

namespace Scaffold.FileTree

/-- From a directory and with a number of links allowed, components end at a destination. -/
inductive Ends (tree : FileTree) : Nat → Location → List Component → Destination → Prop
  | done {links : Nat} {directory : Location} :
      Ends tree links directory [] (.existing directory)
  | blank {links : Nat} {directory : Location} {rest : List Component}
      {destination : Destination} :
      Ends tree links directory rest destination →
      Ends tree links directory (.blank :: rest) destination
  | here {links : Nat} {directory : Location} {rest : List Component}
      {destination : Destination} :
      Ends tree links directory rest destination →
      Ends tree links directory (.here :: rest) destination
  | up {links : Nat} {directory : Location} {rest : List Component} {destination : Destination} :
      Ends tree links directory.tail rest destination →
      Ends tree links directory (.up :: rest) destination
  | enter {links : Nat} {directory : Location} {rest : List Component} {destination : Destination}
      {name : Name} {mode : UInt32} :
      ¬ tree.limits.nameBytes < name.length →
      tree.at? (name :: directory) = some (.directory mode) →
      Ends tree links (name :: directory) rest destination →
      Ends tree links directory (.entry name :: rest) destination
  | file {links : Nat} {directory : Location} {name : Name} {content : ByteArray} :
      ¬ tree.limits.nameBytes < name.length →
      tree.at? (name :: directory) = some (.file content) →
      Ends tree links directory [.entry name] (.existing (name :: directory))
  | missing {links : Nat} {directory : Location} {name : Name} :
      ¬ tree.limits.nameBytes < name.length →
      tree.at? (name :: directory) = none →
      Ends tree links directory [.entry name] (.missing directory name)
  | follow {links : Nat} {directory : Location} {rest : List Component}
      {destination : Destination} {name : Name} {target : Path} :
      ¬ tree.limits.nameBytes < name.length →
      tree.at? (name :: directory) = some (.link target) →
      Ends tree links (startOf directory target) (target.components ++ rest) destination →
      Ends tree (links + 1) directory (.entry name :: rest) destination

variable {tree before after : FileTree} {links : Nat} {directory : Location}
  {components : List Component} {destination : Destination} {path : Path} {content : ByteArray}

theorem ends_of_walk {intent : Intent}
    (walked : tree.walk intent links directory components = .ok destination) :
    tree.Ends links directory components destination := by
  induction links using Nat.strong_induction_on generalizing directory components with
  | _ links fewerLinks =>
      induction components generalizing directory with
      | nil =>
          rw [walk_nil] at walked
          cases walked
          exact .done
      | cons component components ih =>
          cases component with
          | blank => exact .blank (ih (walk_blank.symm.trans walked))
          | here => exact .here (ih (walk_here.symm.trans walked))
          | up => exact .up (ih (walk_up.symm.trans walked))
          | entry name =>
              by_cases closed : (intent = .create ∧ components ≠ [] ∧
                  components.all (· = .blank)) ∨ tree.limits.nameBytes < name.length
              · obtain ⟨fault, refused⟩ :=
                  @walk_entry_refused tree intent links directory components name closed
                rw [refused] at walked
                cases walked
              · obtain ⟨open', short⟩ := not_or.mp closed
                rw [walk_entry open' short] at walked
                cases found : tree.at? (name :: directory) with
                | none =>
                    rw [found] at walked
                    simp only at walked
                    split at walked
                    next last =>
                        cases walked
                        rw [last]
                        exact .missing short found
                    next => cases walked
                | some entry =>
                    rw [found] at walked
                    cases entry with
                    | directory mode => exact .enter short found (ih walked)
                    | file content =>
                        simp only at walked
                        split at walked
                        next last =>
                            cases walked
                            rw [last]
                            exact .file short found
                        next => cases walked
                    | link target =>
                        cases links with
                        | zero => cases walked
                        | succ fewer =>
                            exact .follow short found
                              (fewerLinks fewer (Nat.lt_succ_self fewer) walked)

theorem Ends.isDirectory_of_missing {place : Location} {name : Name}
    (ends : tree.Ends links directory components (.missing place name))
    (inside : tree.IsDirectory directory) :
    tree.IsDirectory place ∧ tree.at? (name :: place) = none := by
  generalize last : Destination.missing place name = destination at ends
  induction ends with
  | done => cases last
  | blank _ ih => exact ih inside last
  | here _ ih => exact ih inside last
  | up _ ih => exact ih inside.tail last
  | enter _ found _ ih => exact ih ⟨_, found⟩ last
  | file => cases last
  | missing _ none =>
      cases last
      exact ⟨inside, none⟩
  | follow _ _ _ ih => exact ih (inside.startOf _) last

theorem Ends.isDirectory_or_file {location : Location}
    (ends : tree.Ends links directory components (.existing location))
    (inside : tree.IsDirectory directory) :
    tree.IsDirectory location ∨ ∃ content, tree.at? location = some (.file content) := by
  generalize last : Destination.existing location = destination at ends
  induction ends with
  | done =>
      cases last
      exact Or.inl inside
  | blank _ ih => exact ih inside last
  | here _ ih => exact ih inside last
  | up _ ih => exact ih inside.tail last
  | enter _ found _ ih => exact ih ⟨_, found⟩ last
  | file _ found =>
      cases last
      exact Or.inr ⟨_, found⟩
  | missing => cases last
  | follow _ _ _ ih => exact ih (inside.startOf _) last

theorem isDirectory_or_file_of_walk {location : Location}
    (walked : tree.walk .inspect links (startOf tree.workingDirectory path) components =
      .ok (.existing location)) :
    tree.IsDirectory location ∨ ∃ content, tree.at? location = some (.file content) :=
  (ends_of_walk walked).isDirectory_or_file (IsDirectory.startOf tree.working_directory path)

theorem find?_ne_link {location : Location} {target : Path} :
    tree.find? path ≠ .ok (location, .link target) := by
  intro found
  obtain ⟨-, walked, present⟩ := find?_eq_ok_iff.mp found
  rcases isDirectory_or_file_of_walk walked with ⟨mode, inside⟩ | ⟨content, file⟩
  · exact absurd (present.symm.trans inside) nofun
  · exact absurd (present.symm.trans file) nofun

theorem Ends.inspect_eq (ends : tree.Ends links directory components destination) :
    tree.walk .inspect links directory components = .ok destination := by
  induction ends with
  | done => exact walk_nil
  | blank _ ih => exact walk_blank.trans ih
  | here _ ih => exact walk_here.trans ih
  | up _ ih => exact walk_up.trans ih
  | enter short found _ ih =>
      rw [walk_entry open_of_inspect short, found]
      exact ih
  | file short found =>
      rw [walk_entry open_of_inspect short, found]
      rfl
  | missing short none =>
      rw [walk_entry open_of_inspect short, none]
      rfl
  | follow short found _ ih =>
      rw [walk_entry open_of_inspect short, found]
      exact ih

/-- Components still end where they ended once a file is there, if directories and links are
kept. -/
theorem Ends.filled (ends : before.Ends links directory components destination)
    (limits : after.limits = before.limits)
    (kept : ∀ location entry, entry.isFile = false → before.at? location = some entry →
      after.at? location = some entry)
    (filled : after.at? destination.location = some (.file content)) :
    after.Ends links directory components (.existing destination.location) := by
  induction ends with
  | done => exact .done
  | blank _ ih => exact .blank (ih filled)
  | here _ ih => exact .here (ih filled)
  | up _ ih => exact .up (ih filled)
  | enter short found _ ih =>
      rw [← limits] at short
      exact .enter short (kept _ _ rfl found) (ih filled)
  | file short _ =>
      rw [← limits] at short
      exact .file short filled
  | missing short _ =>
      rw [← limits] at short
      exact .file short filled
  | follow short found _ ih =>
      rw [← limits] at short
      exact .follow short (kept _ _ rfl found) (ih filled)

/-- A file is made or emptied where the components of a path end, and nothing else is there. -/
theorem createFile?_eq_ok {location : Location} {step : Step}
    (created : tree.createFile? path = .ok (location, step)) :
    step = .createFile location ∧ tree.checkPath path = .ok () ∧
      (∃ destination, destination.location = location ∧ tree.Ends tree.limits.links
        (startOf tree.workingDirectory path) path.components destination) ∧
      ∃ name directory, location = name :: directory ∧ tree.IsDirectory directory ∧
        ∀ entry, tree.at? location = some entry → entry.isFile = true := by
  unfold createFile? resolve at created
  cases checked : tree.checkPath path with
  | error fault => rw [checked] at created; cases created
  | ok =>
      rw [checked] at created
      simp only [bind, Except.bind] at created
      cases walked : tree.walk .create tree.limits.links (startOf tree.workingDirectory path)
          path.components with
      | error fault => rw [walked] at created; cases created
      | ok destination =>
          rw [walked] at created
          have ends := ends_of_walk walked
          cases destination with
          | missing directory name =>
              cases created
              obtain ⟨inside, none⟩ :=
                ends.isDirectory_of_missing (IsDirectory.startOf tree.working_directory path)
              refine ⟨rfl, rfl, ⟨_, rfl, ends⟩, name, directory, rfl, inside, ?_⟩
              intro entry found
              rw [none] at found
              cases found
          | existing place =>
              cases place with
              | nil => cases created
              | cons name directory =>
                  cases found : tree.at? (name :: directory) with
                  | none => simp only [found] at created; cases created
                  | some entry =>
                      cases entry with
                      | directory mode => simp only [found] at created; cases created
                      | link target => simp only [found] at created; cases created
                      | file bytes =>
                          simp only [found] at created
                          cases created
                          refine ⟨rfl, rfl, ⟨_, rfl, ends⟩, name, directory, rfl,
                            isDirectory_of_at?_cons found, ?_⟩
                          intro entry same
                          rw [found] at same
                          cases same
                          rfl

/-- A file was made or filled where a path leads, links followed to their end. -/
structure PutInPlace (before after : FileTree) (path : Path) (content : ByteArray)
    (location : Location) : Prop where
  written : Written before after location content
  leads : after.find? path = .ok (location, .file content)
  /-- Nothing but a file is replaced. -/
  plain : ∀ entry, before.at? location = some entry → entry.isFile = true
  /-- What the path led to is what is filled. -/
  stays : ∀ place entry, before.find? path = .ok (place, entry) → place = location

theorem runIn_writeWhole_putInPlace {world : World} {location : Location} {step : Step}
    (content : ByteArray) (created : world.tree.createFile? path = .ok (location, step)) :
    ∃ next, Action.runIn world (writeWhole path content) =
        (if world.tree.limits.holds content then .ok () else .error .fileTooLarge, next) ∧
      PutInPlace world.tree next.tree path (world.tree.limits.part content) location := by
  obtain ⟨rfl, checked, ⟨destination, same, ends⟩, name, directory, rfl, inside, plain⟩ :=
    createFile?_eq_ok created
  obtain ⟨next, done, filled⟩ := runIn_writeWhole_of_ok content created
  refine ⟨next, done, ?_⟩
  have free : ¬ world.tree.IsDirectory (name :: directory) := by
    rintro ⟨mode, found⟩
    cases plain _ found
  have written : Written world.tree next.tree (name :: directory)
      (world.tree.limits.part content) := by
    rw [filled.tree_eq]
    exact written_of_created inside free _
  have unlinked (target : Path) : world.tree.at? (name :: directory) ≠ some (.link target) := by
    intro linked
    cases plain _ linked
  have there : next.tree.at? destination.location =
      some (.file (world.tree.limits.part content)) := by
    rw [same, written.at?_self]
  have still := ends.filled written.limits_eq
    (fun _ _ => written.kept_of_plain free unlinked) there
  refine ⟨written, find?_eq_ok_iff.mpr ⟨?_, ?_, written.at?_self⟩, plain, ?_⟩
  · exact (checkPath_congr written.limits_eq path).trans checked
  · rw [written.limits_eq, written.workingDirectory_eq, ← same]
    exact still.inspect_eq
  · intro place entry found
    have led := ends.inspect_eq.symm.trans (find?_eq_ok_iff.mp found).2.1
    cases led
    exact same

theorem writeWhole_cases {world next : World} {result : Except Fault Unit}
    (ran : Action.runIn world (writeWhole path content) = (result, next)) :
    (∃ fault, world.tree.createFile? path = .error fault ∧ result = .error fault ∧ next = world) ∨
      (result = if world.tree.limits.holds content then .ok () else .error .fileTooLarge) ∧
        ∃ location,
          PutInPlace world.tree next.tree path (world.tree.limits.part content) location := by
  cases created : world.tree.createFile? path with
  | error fault =>
      rw [runIn_writeWhole_of_error created] at ran
      cases ran
      exact Or.inl ⟨fault, rfl, rfl, rfl⟩
  | ok pair =>
      obtain ⟨last, done, put⟩ := runIn_writeWhole_putInPlace content created
      rw [done] at ran
      cases ran
      exact Or.inr ⟨rfl, _, put⟩

theorem writeWhole_putInPlace {world next : World}
    (ran : Action.runIn world (writeWhole path content) = (.ok (), next)) :
    ∃ location, PutInPlace world.tree next.tree path content location := by
  obtain ⟨fault, -, failed, -⟩ | ⟨done, location, put⟩ := writeWhole_cases ran
  · cases failed
  · split at done
    next held =>
        rw [Limits.part_of_holds held] at put
        exact ⟨location, put⟩
    next => cases done

end Scaffold.FileTree
