import Scaffold.FileTree.Writing
import Scaffold.Proofs.FileTree.Effects
import Scaffold.Proofs.Running

/-! Trees that grow by directories.

Making the directories of a path, whether it succeeds or stops half-way, keeps every entry and adds
only directories, each with the mode that the tree before decides and at a path of the chain that led
to nothing before. Main statements: `makeDirectories_grown`, and for paths without `..` `at?_eq_none_of_makeDirectories`: if
such a path led to no directory, the one that it leads to afterwards is new. -/

set_option autoImplicit false

namespace Scaffold

/-- The first path is that of a directory around the second, as they are written. -/
inductive Path.Around : Path → Path → Prop
  | parent {outer path : Path} : path.parent? = some outer → Around outer path
  | further {outer parent path : Path} :
      path.parent? = some parent → Around outer parent → Around outer path

theorem Path.around_of_mem_ancestors {depth : Nat} {outer parent path : Path}
    (has : path.parent? = some parent) (member : outer ∈ ancestors depth parent) :
    Around outer path := by
  induction depth generalizing parent path with
  | zero => cases member
  | succ depth ih =>
      rw [ancestors] at member
      split at member
      · cases member
      · rcases List.mem_cons.mp member with rfl | deeper
        · exact .parent has
        · cases above : parent.parent? with
          | none =>
              rw [above] at deeper
              cases deeper
          | some next =>
              rw [above] at deeper
              exact .further has (ih above deeper)

theorem Path.Around.steps_begin {outer path : Path} (around : Around outer path) :
    outer.steps <+: path.steps := by
  induction around with
  | parent has =>
      rw [steps_of_parent? has]
      exact List.prefix_append _ _
  | further has _ ih =>
      rw [steps_of_parent? has]
      exact ih.trans (List.prefix_append _ _)

theorem Path.ancestors_of_isEmpty {depth : Nat} {path : Path} (empty : path.isEmpty = true) :
    ancestors depth path = [] := by
  cases depth with
  | zero => rfl
  | succ depth => rw [ancestors, if_pos empty]

theorem Path.ancestors_cases (depth : Nat) (path : Path) :
    ancestors depth path = [] ∨ ∃ outer, ancestors depth path = path :: outer := by
  cases depth with
  | zero => exact Or.inl rfl
  | succ depth =>
      rw [ancestors]
      cases path.isEmpty with
      | true => exact Or.inl rfl
      | false => exact Or.inr ⟨_, rfl⟩

namespace FileTree

/-! ### Growth -/

/-- The entry at a location was made at a path that led to nothing before. -/
structure Made (before after : FileTree) (path : Path) (location : Location) (entry : Entry) :
    Prop where
  missing : before.exists? path = false
  found : after.find? path = .ok (location, entry)
  named : ∃ name parent, location = name :: parent ∧ .entry name ∈ path.steps

/-- A tree has all that another one has, and beyond that only directories that were made for one mode
at paths of one kind. -/
structure Grown (mode : UInt32) (kind : Path → Prop) (before after : FileTree) : Prop where
  limits_eq : after.limits = before.limits
  workingDirectory_eq : after.workingDirectory = before.workingDirectory
  kept : ∀ location entry, before.at? location = some entry → after.at? location = some entry
  added : ∀ location entry, before.at? location = none → after.at? location = some entry →
    entry = .directory (before.newMode mode location) ∧
      ∃ path, kind path ∧ Made before after path location entry

namespace Grown

variable {mode : UInt32} {kind : Path → Prop} {before between after : FileTree}

theorem refl (mode : UInt32) (kind : Path → Prop) (tree : FileTree) : Grown mode kind tree tree where
  limits_eq := rfl
  workingDirectory_eq := rfl
  kept := fun _ _ found => found
  added := by
    intro location entry missing found
    rw [missing] at found
    cases found

theorem imp {other : Path → Prop} (grown : Grown mode kind before after)
    (wider : ∀ path, kind path → other path) : Grown mode other before after where
  limits_eq := grown.limits_eq
  workingDirectory_eq := grown.workingDirectory_eq
  kept := grown.kept
  added := by
    intro location entry missing found
    obtain ⟨same, path, inside, made⟩ := grown.added location entry missing found
    exact ⟨same, path, wider path inside, made⟩

theorem find?_mono (grown : Grown mode kind before after) {path : Path} {location : Location}
    {entry : Entry} (found : before.find? path = .ok (location, entry)) :
    after.find? path = .ok (location, entry) :=
  FileTree.find?_mono grown.limits_eq grown.workingDirectory_eq grown.kept found

theorem at?_eq_none (grown : Grown mode kind before after) {location : Location}
    (missing : after.at? location = none) : before.at? location = none := by
  cases found : before.at? location with
  | none => rfl
  | some entry => exact absurd (missing.symm.trans (grown.kept location entry found)) nofun

theorem at?_eq_of_free (grown : Grown mode kind before after) {location : Location}
    (free : ¬ after.IsDirectory location) : after.at? location = before.at? location := by
  cases earlier : before.at? location with
  | some entry => exact grown.kept _ _ earlier
  | none =>
      cases found : after.at? location with
      | none => rfl
      | some entry =>
          obtain ⟨rfl, -⟩ := grown.added _ _ earlier found
          exact absurd ⟨_, found⟩ free

theorem leaves_eq (grown : Grown mode kind before after) {location : Location} {entry : Entry}
    (leaf : entry.isDirectory = false) :
    after.at? location = some entry ↔ before.at? location = some entry := by
  constructor
  · intro found
    cases earlier : before.at? location with
    | none =>
        obtain ⟨rfl, -⟩ := grown.added _ _ earlier found
        cases leaf
    | some present => exact (grown.kept _ _ earlier).symm.trans found
  · exact grown.kept location entry

theorem hollow (grown : Grown mode kind before after) {directory : Location} {name : Name}
    {entry : Entry} (missing : before.at? directory = none)
    (found : after.at? (name :: directory) = some entry) : entry.isDirectory = true := by
  cases earlier : before.at? (name :: directory) with
  | none =>
      obtain ⟨rfl, -⟩ := grown.added _ _ earlier found
      rfl
  | some present =>
      exact absurd (isDirectory_of_at?_cons earlier) (not_isDirectory_of_none missing)

theorem groupBit_eq (grown : Grown mode kind before after) (location : Location) :
    after.groupBit location = before.groupBit location :=
  groupBit_eq_of_made mode grown.kept (fun other entry missing found =>
    (grown.added other entry missing found).1) location

theorem trans (first : Grown mode kind before between) (second : Grown mode kind between after) :
    Grown mode kind before after where
  limits_eq := second.limits_eq.trans first.limits_eq
  workingDirectory_eq := second.workingDirectory_eq.trans first.workingDirectory_eq
  kept := fun location entry found => second.kept location entry (first.kept location entry found)
  added := by
    intro location entry missing found
    cases halfway : between.at? location with
    | some present =>
        obtain ⟨same, path, inside, made⟩ := first.added location present missing halfway
        rw [second.kept location present halfway] at found
        cases found
        exact ⟨same, path, inside, made.missing, second.find?_mono made.found, made.named⟩
    | none =>
        obtain ⟨same, path, inside, made⟩ := second.added location entry halfway found
        rw [newMode_congr (first.groupBit_eq location)] at same
        refine ⟨same, path, inside, ?_, made.found, made.named⟩
        unfold exists?
        cases earlier : before.find? path with
        | error fault => rfl
        | ok pair =>
            have still := first.find?_mono earlier
            have absent := made.missing
            rw [exists?, still] at absent
            cases absent

theorem at?_of_leads (grown : Grown mode kind before after) {links left : Nat}
    {directory reached : Location} {components : List Component} (plain : .up ∉ components)
    (absent : before.at? directory = none)
    (leads : after.Leads links directory components left reached) :
    before.at? reached = none := by
  have below (name : Name) {parent : Location} (absent : before.at? parent = none) :
      before.at? (name :: parent) = none := by
    cases found : before.at? (name :: parent) with
    | none => rfl
    | some entry =>
        obtain ⟨_, inside⟩ := isDirectory_of_at?_cons found
        exact absurd (absent.symm.trans inside) nofun
  induction leads with
  | done => exact absent
  | blank _ ih => exact ih (List.not_mem_of_not_mem_cons plain) absent
  | here _ ih => exact ih (List.not_mem_of_not_mem_cons plain) absent
  | up _ _ => exact absurd List.mem_cons_self plain
  | enter _ _ _ ih => exact ih (List.not_mem_of_not_mem_cons plain) (below _ absent)
  | follow _ found _ _ =>
      obtain ⟨impossible, -⟩ := grown.added _ _ (below _ absent) found
      cases impossible

end Grown

/-! ### Making one directory -/

structure Makeable (tree : FileTree) (path : Path) (before blanks : List Component)
    (parent : Location) (name : Name) : Prop where
  checked : tree.checkPath path = .ok ()
  divided : path.components = before ++ .entry name :: blanks
  blank : ∀ component ∈ blanks, component = .blank
  leads : ∃ left, tree.Leads tree.limits.links (startOf tree.workingDirectory path) before left
    parent
  short : ¬ tree.limits.nameBytes < name.length
  missing : tree.at? (name :: parent) = none

theorem makeable_of_makeDirectory? {tree : FileTree} {path : Path} {mode : UInt32} {step : Step}
    (made : tree.makeDirectory? path mode = .ok step) :
    ∃ before blanks parent name, Makeable tree path before blanks parent name ∧
      step = .makeDirectory (name :: parent) (tree.newMode mode (name :: parent)) := by
  unfold makeDirectory? at made
  cases resolved : tree.resolveParent path with
  | error fault => rw [resolved] at made; cases made
  | ok pair =>
      obtain ⟨parent, last⟩ := pair
      rw [resolved] at made
      obtain ⟨checked, before, split, leads⟩ := resolveParent_eq_ok resolved
      cases last with
      | special => cases made
      | named name slash =>
          obtain ⟨blanks, divided, blank, -⟩ := eq_of_splitLast split
          simp only [bind, Except.bind] at made
          split at made
          · cases made
          next short =>
              cases missing : tree.at? (name :: parent) with
              | some entry => rw [missing] at made; cases made
              | none =>
                  rw [missing] at made
                  cases made
                  exact ⟨before, blanks, parent, name,
                    ⟨checked, divided, blank, leads, short, missing⟩, rfl⟩

namespace Makeable

variable {tree : FileTree} {path : Path} {before blanks : List Component} {parent : Location}
  {name : Name}

theorem at?_apply (makeable : Makeable tree path before blanks parent name) (mode : UInt32)
    (other : Location) :
    (tree.apply (.makeDirectory (name :: parent) mode)).at? other =
      if other = name :: parent then some (.directory mode) else tree.at? other := by
  obtain ⟨left, leads⟩ := makeable.leads
  have inside := leads.isDirectory (IsDirectory.startOf tree.working_directory path)
  exact at?_makeDirectory inside makeable.missing mode other

theorem at?_apply_of_some (makeable : Makeable tree path before blanks parent name)
    (mode : UInt32) {location : Location} {entry : Entry}
    (found : tree.at? location = some entry) :
    (tree.apply (.makeDirectory (name :: parent) mode)).at? location = some entry := by
  have other : location ≠ name :: parent := by
    rintro rfl
    rw [makeable.missing] at found
    cases found
  rw [makeable.at?_apply, if_neg other, found]

theorem leads_apply (makeable : Makeable tree path before blanks parent name) (mode : UInt32) :
    ∃ left, (tree.apply (.makeDirectory (name :: parent) mode)).Leads tree.limits.links
      (startOf tree.workingDirectory path) path.components left (name :: parent) := by
  obtain ⟨left, leads⟩ := makeable.leads
  have limits := (apply_frame tree (.makeDirectory (name :: parent) mode)).1
  have made := makeable.at?_apply mode (name :: parent)
  rw [if_pos rfl] at made
  have idle : ∀ component ∈ blanks, component.moves = false := by
    intro component member
    rw [makeable.blank component member]
    rfl
  have ended := Leads.of_idle_append idle
    (@Leads.done (tree.apply (.makeDirectory (name :: parent) mode)) left (name :: parent))
  rw [List.append_nil] at ended
  refine ⟨left, ?_⟩
  rw [makeable.divided]
  refine (leads.mono limits fun location entry _ => makeable.at?_apply_of_some mode).append ?_
  exact .enter (by rw [limits]; exact makeable.short) made ended

theorem find?_apply (makeable : Makeable tree path before blanks parent name) (mode : UInt32) :
    (tree.apply (.makeDirectory (name :: parent) mode)).find? path =
      .ok (name :: parent, .directory mode) := by
  rw [find?_directory_iff, checkPath_congr (apply_frame tree _).1, (apply_frame tree _).1,
    (apply_frame tree _).2, makeable.at?_apply, if_pos rfl]
  exact ⟨makeable.checked, rfl, makeable.leads_apply mode⟩

theorem grown (makeable : Makeable tree path before blanks parent name) (mode : UInt32) :
    Grown mode (· = path) tree
      (tree.apply (.makeDirectory (name :: parent) (tree.newMode mode (name :: parent)))) where
  limits_eq := (apply_frame tree _).1
  workingDirectory_eq := (apply_frame tree _).2
  kept := fun location entry => makeable.at?_apply_of_some _
  added := by
    intro location entry missing found
    rw [makeable.at?_apply] at found
    split at found
    next same =>
        cases found
        subst same
        refine ⟨rfl, path, rfl, ?_, ?_, name, parent, rfl,
          Path.entry_mem_steps makeable.divided⟩
        · obtain ⟨left, leads⟩ := makeable.leads
          exact exists?_eq_false_of_missing makeable.divided leads makeable.missing
        · exact makeable.find?_apply _
    next => rw [missing] at found; cases found

end Makeable

/-! ### Making a chain of directories -/

/-- The tolerant end of making a directory changes nothing. -/
theorem runIn_unless_isDirectory (world : World) (path : Path) (cause : Fault) :
    Action.runIn world
        (do unless (← Action.tree).isDirectory path do throw cause : Action Fault Unit) =
      (if world.tree.isDirectory path then .ok () else .error cause, world) := by
  rw [Action.runIn_tree_bind]
  cases world.tree.isDirectory path with
  | true => rfl
  | false => rfl

theorem ensureDirectory_grown (path : Path) (mode : UInt32) (world : World) :
    Grown mode (· = path) world.tree
      (Action.runIn world (ensureDirectory path mode)).2.tree := by
  unfold ensureDirectory
  rw [Action.runIn_tree_bind]
  cases made : world.tree.makeDirectory? path mode with
  | ok step =>
      obtain ⟨before, blanks, parent, name, makeable, rfl⟩ := makeable_of_makeDirectory? made
      exact makeable.grown _
  | error cause =>
      simp only
      rw [runIn_unless_isDirectory]
      exact Grown.refl _ _ _

/-- A chain of directories is made from its outer end, unless that is there already; without its
outer end it is not made. -/
theorem makeDirectories_cases {mode : UInt32} {path : Path} {outer : List Path} {world next : World}
    {result : Except Fault Unit}
    (ran : Action.runIn world (makeDirectories mode (path :: outer)) = (result, next)) :
    (∃ between, (between = world ∨
        Action.runIn world (makeDirectories mode outer) = (.ok (), between)) ∧
      Action.runIn between (ensureDirectory path mode) = (result, next)) ∨
    ∃ cause, result = .error cause ∧
      Action.runIn world (makeDirectories mode outer) = (.error cause, next) := by
  have alone (same : Action.runIn world (ensureDirectory path mode) = (result, next)) :
      ∃ between, (between = world ∨
          Action.runIn world (makeDirectories mode outer) = (.ok (), between)) ∧
        Action.runIn between (ensureDirectory path mode) = (result, next) :=
    ⟨world, Or.inl rfl, same⟩
  rw [makeDirectories, Action.runIn_tree_bind] at ran
  rw [ensureDirectory, Action.runIn_tree_bind] at alone
  cases made : world.tree.makeDirectory? path mode with
  | ok step =>
      rw [made] at ran alone
      exact Or.inl (alone ran)
  | error fault =>
      rw [made] at ran alone
      cases fault with
      | notFound =>
          simp only at ran
          rw [Action.runIn_bind] at ran
          split at ran
          next value between first => exact Or.inl ⟨between, Or.inr first, ran⟩
          next cause stopped first =>
              cases ran
              exact Or.inr ⟨cause, rfl, first⟩
      | _ => exact Or.inl (alone ran)

theorem makeDirectories_grown (mode : UInt32) (paths : List Path) (world : World) :
    Grown mode (· ∈ paths) world.tree
      (Action.runIn world (makeDirectories mode paths)).2.tree := by
  induction paths generalizing world with
  | nil => exact Grown.refl _ _ _
  | cons path outer ih =>
      have around := (ih world).imp fun other => List.mem_cons_of_mem path
      have itself (between : World) :
          Grown mode (· ∈ path :: outer) between.tree
            (Action.runIn between (ensureDirectory path mode)).2.tree := by
        refine (ensureDirectory_grown path mode between).imp ?_
        intro other same
        rw [same]
        exact List.mem_cons_self
      rcases ran : Action.runIn world (makeDirectories mode (path :: outer)) with ⟨result, next⟩
      rcases makeDirectories_cases ran with ⟨between, rfl | first, last⟩ | ⟨cause, -, stopped⟩
      · have whole := itself between
        rwa [last] at whole
      · have whole := itself between
        rw [last] at whole
        rw [first] at around
        exact around.trans whole
      · rwa [stopped] at around

theorem ensureDirectory_took (path : Path) (mode : UInt32) (world : World) :
    ∃ steps, world.Took (Action.runIn world (ensureDirectory path mode)).2 steps ∧
      ∀ step ∈ steps, step.makesDirectory = true := by
  unfold ensureDirectory
  rw [Action.runIn_tree_bind]
  cases made : world.tree.makeDirectory? path mode with
  | ok step =>
      obtain ⟨before, blanks, parent, name, makeable, rfl⟩ := makeable_of_makeDirectory? made
      refine ⟨_, .perform world _, ?_⟩
      intro step member
      rw [List.mem_singleton.mp member]
      rfl
  | error cause =>
      simp only
      rw [runIn_unless_isDirectory]
      exact ⟨[], .refl world, nofun⟩

theorem makeDirectories_took (mode : UInt32) (paths : List Path) (world : World) :
    ∃ steps, world.Took (Action.runIn world (makeDirectories mode paths)).2 steps ∧
      ∀ step ∈ steps, step.makesDirectory = true := by
  induction paths generalizing world with
  | nil => exact ⟨[], .refl world, nofun⟩
  | cons path outer ih =>
      obtain ⟨steps, around, make⟩ := ih world
      rcases ran : Action.runIn world (makeDirectories mode (path :: outer)) with ⟨result, next⟩
      rcases makeDirectories_cases ran with ⟨between, rfl | first, last⟩ | ⟨cause, -, stopped⟩
      · have itself := ensureDirectory_took path mode between
        rwa [last] at itself
      · obtain ⟨further, itself, finish⟩ := ensureDirectory_took path mode between
        rw [first] at around
        rw [last] at itself
        exact ⟨_, around.trans itself, List.forall_mem_append.mpr ⟨make, finish⟩⟩
      · rw [stopped] at around
        exact ⟨steps, around, make⟩

/-! ### Directories that are there -/

theorem makeDirectory?_of_isDirectory {tree : FileTree} {path : Path} (mode : UInt32)
    (inside : tree.isDirectory path = true) :
    ∃ cause, cause ≠ .notFound ∧ tree.makeDirectory? path mode = .error cause := by
  obtain ⟨location, present, found⟩ := isDirectory_iff.mp inside
  obtain ⟨checked, -, left, leads⟩ := find?_directory_iff.mp found
  rcases split : splitLast path.components with ⟨before, last⟩
  obtain ⟨rest, divided⟩ := splitLast_begins path.components
  rw [split] at divided
  rw [← divided] at leads
  obtain ⟨between, parent, front, back⟩ := leads.split
  unfold makeDirectory?
  rw [resolveParent_of_leads checked split front]
  cases last with
  | special => exact ⟨.alreadyExists, nofun, rfl⟩
  | named name slash =>
      simp only [bind, Except.bind]
      by_cases long : tree.limits.nameBytes < name.length
      · exact ⟨.nameTooLong, nofun, if_pos long⟩
      · obtain ⟨blanks, ends, -⟩ := eq_of_splitLast split
        have same : rest = .entry name :: blanks :=
          List.append_cancel_left (divided.trans ends)
        rw [same] at back
        rw [if_neg long]
        cases back with
        | enter _ there _ => exact ⟨.alreadyExists, nofun, by rw [there]; rfl⟩
        | follow _ there _ => exact ⟨.alreadyExists, nofun, by rw [there]; rfl⟩

theorem makeDirectories_of_isDirectory {world : World} {path : Path} (mode : UInt32)
    (outer : List Path) (inside : world.tree.isDirectory path = true) :
    Action.runIn world (makeDirectories mode (path :: outer)) = (.ok (), world) := by
  obtain ⟨cause, other, refused⟩ := makeDirectory?_of_isDirectory mode inside
  rw [makeDirectories, Action.runIn_tree_bind, refused]
  cases cause with
  | notFound => exact absurd rfl other
  | _ =>
      simp only
      rw [runIn_unless_isDirectory, if_pos inside]

/-- Where a directory is ensured, the path leads to one: a new one, or one that was there. -/
theorem ensureDirectory_ok {path : Path} {mode : UInt32} {world next : World}
    (ran : Action.runIn world (ensureDirectory path mode) = (.ok (), next)) :
    (∃ location, world.tree.at? location = none ∧ next.tree.find? path =
        .ok (location, .directory (world.tree.newMode mode location))) ∨
      next = world ∧ world.tree.isDirectory path = true := by
  unfold ensureDirectory at ran
  rw [Action.runIn_tree_bind] at ran
  cases made : world.tree.makeDirectory? path mode with
  | ok step =>
      obtain ⟨before, blanks, parent, name, makeable, rfl⟩ := makeable_of_makeDirectory? made
      rw [made] at ran
      cases ran
      exact Or.inl ⟨name :: parent, makeable.missing, makeable.find?_apply _⟩
  | error cause =>
      rw [made] at ran
      simp only at ran
      rw [runIn_unless_isDirectory] at ran
      split at ran
      next inside => cases ran; exact Or.inr ⟨rfl, inside⟩
      next => cases ran

theorem ensureDirectory_error {path : Path} {mode : UInt32} {world next : World} {cause : Fault}
    (ran : Action.runIn world (ensureDirectory path mode) = (.error cause, next)) :
    next = world ∧ next.tree.isDirectory path = false := by
  rw [ensureDirectory, Action.runIn_tree_bind] at ran
  cases made : world.tree.makeDirectory? path mode with
  | ok step =>
      rw [made] at ran
      cases ran
  | error fault =>
      rw [made] at ran
      simp only at ran
      rw [runIn_unless_isDirectory] at ran
      split at ran
      next => cases ran
      next apart =>
          cases ran
          exact ⟨rfl, eq_false_of_ne_true apart⟩

theorem isDirectory_of_makeDirectories {mode : UInt32} {path : Path} {outer : List Path}
    {world next : World}
    (ran : Action.runIn world (makeDirectories mode (path :: outer)) = (.ok (), next)) :
    next.tree.isDirectory path = true := by
  rcases makeDirectories_cases ran with ⟨between, -, last⟩ | ⟨cause, impossible, -⟩
  · rcases ensureDirectory_ok last with ⟨location, -, found⟩ | ⟨rfl, inside⟩
    · exact isDirectory_iff.mpr ⟨location, _, found⟩
    · exact inside
  · cases impossible

/-! ### Paths that never go up -/

theorem leads_of_parent? {tree : FileTree} {path parent : Path} {links left : Nat}
    {directory reached : Location} (has : path.parent? = some parent)
    (leads : tree.Leads links directory path.components left reached) :
    ∃ last between midway, path.steps = parent.steps ++ last ∧
      tree.Leads links directory parent.components between midway ∧
      tree.Leads between midway last left reached := by
  have divided := Path.steps_of_parent? has
  have still (segments : List Name) :
      (Path.stepsOf segments).filter Component.moves = Path.stepsOf segments := by
    simp only [Path.stepsOf, List.filter_filter, Bool.and_self]
  have same : (parent.components ++
      Path.stepsOf [path.furtherSegments.headD path.firstSegment]).filter Component.moves =
        path.components.filter Component.moves := by
    rw [List.filter_append, still]
    exact divided.symm
  obtain ⟨between, midway, front, back⟩ := (leads.of_same_steps same).split
  exact ⟨_, between, midway, divided, front, back⟩

theorem isDirectory_parent? {tree : FileTree} {path parent : Path}
    (has : path.parent? = some parent) (written : parent.isEmpty = false)
    (inside : tree.isDirectory path = true) : tree.isDirectory parent = true := by
  obtain ⟨location, mode, found⟩ := isDirectory_iff.mp inside
  obtain ⟨checked, -, left, leads⟩ := find?_directory_iff.mp found
  obtain ⟨last, between, midway, -, front, -⟩ := leads_of_parent? has leads
  obtain ⟨outer, there⟩ := front.isDirectory (IsDirectory.startOf tree.working_directory path)
  refine isDirectory_iff.mpr ⟨midway, outer, find?_directory_iff.mpr ⟨?_, there, between, ?_⟩⟩
  · exact checkPath_of_beginning (Path.parent?_bytes_begin has) written checked
  · rw [startOf_parent? _ has]
    exact front

/-- If a chain of directories cannot be made, its innermost directory is not there afterwards. -/
theorem isDirectory_eq_false_of_makeDirectories {mode : UInt32} {depth : Nat} {path : Path}
    {world next : World} {cause : Fault}
    (ran : Action.runIn world (makeDirectories mode (path.ancestors depth)) = (.error cause, next)) :
    next.tree.isDirectory path = false := by
  induction depth generalizing path with
  | zero => cases ran
  | succ depth ih =>
      rw [Path.ancestors] at ran
      split at ran
      · cases ran
      · rcases makeDirectories_cases ran with ⟨between, -, last⟩ | ⟨stopped, same, first⟩
        · exact (ensureDirectory_error last).2
        · cases same
          rw [← Bool.not_eq_true]
          intro inside
          cases has : path.parent? with
          | none =>
              rw [has] at first
              cases first
          | some parent =>
              rw [has, Option.map_some, Option.getD_some] at first
              cases written : parent.isEmpty with
              | true =>
                  rw [Path.ancestors_of_isEmpty written] at first
                  cases first
              | false =>
                  have outside := ih first
                  rw [isDirectory_parent? has written inside] at outside
                  cases outside

theorem exists_parent_of_makeDirectories {mode : UInt32} {depth : Nat} {path : Path}
    {world next : World} (apart : world.tree.isDirectory path = false)
    (inside : next.tree.isDirectory path = true)
    (ran : Action.runIn world
      (makeDirectories mode ((path.parent?.map (Path.ancestors depth)).getD [])) =
        (.ok (), next)) :
    ∃ parent, path.parent? = some parent ∧
      world.tree.isDirectory parent = false ∧ next.tree.isDirectory parent = true ∧
      Action.runIn world (makeDirectories mode (parent.ancestors depth)) = (.ok (), next) := by
  have moved : next ≠ world := by
    rintro rfl
    exact absurd (apart.symm.trans inside) nofun
  cases has : path.parent? with
  | none =>
      rw [has] at ran
      cases ran
      exact absurd rfl moved
  | some parent =>
      rw [has, Option.map_some, Option.getD_some] at ran
      rcases Path.ancestors_cases depth parent with none | ⟨outer, chained⟩
      · rw [none] at ran
        cases ran
        exact absurd rfl moved
      · have around := ran
        rw [chained] at around
        cases there : world.tree.isDirectory parent with
        | true =>
            rw [makeDirectories_of_isDirectory mode outer there] at around
            cases around
            exact absurd rfl moved
        | false =>
            exact ⟨parent, rfl, there, isDirectory_of_makeDirectories around, ran⟩

/-- A path without `..` that led to no directory leads to a new one once it is made. -/
theorem at?_eq_none_of_makeDirectories {mode present : UInt32} {depth : Nat} {path : Path}
    {world next : World} {location : Location} (plain : .up ∉ path.steps)
    (apart : world.tree.isDirectory path = false)
    (ran : Action.runIn world (makeDirectories mode (path.ancestors depth)) = (.ok (), next))
    (found : next.tree.find? path = .ok (location, .directory present)) :
    world.tree.at? location = none := by
  have inside := isDirectory_iff.mpr ⟨location, present, found⟩
  induction depth generalizing path next location present with
  | zero =>
      cases ran
      exact absurd (apart.symm.trans inside) nofun
  | succ depth ih =>
      rw [Path.ancestors] at ran
      split at ran
      · cases ran
        exact absurd (apart.symm.trans inside) nofun
      · rcases makeDirectories_cases ran with ⟨between, rfl | first, last⟩ | ⟨cause, impossible, -⟩
        · rcases ensureDirectory_ok last with ⟨made, missing, same⟩ | ⟨rfl, -⟩
          · rw [found] at same
            cases same
            exact missing
          · exact absurd (apart.symm.trans inside) nofun
        · have grown := makeDirectories_grown mode
            ((path.parent?.map (Path.ancestors depth)).getD []) world
          rw [first] at grown
          rcases ensureDirectory_ok last with ⟨made, missing, same⟩ | ⟨rfl, -⟩
          · rw [found] at same
            cases same
            exact grown.at?_eq_none missing
          · obtain ⟨parent, has, there, around, made⟩ :=
              exists_parent_of_makeDirectories apart inside first
            obtain ⟨outside, mode', reached⟩ := isDirectory_iff.mp around
            obtain ⟨-, -, left, leads⟩ := find?_directory_iff.mp found
            obtain ⟨-, -, other, direct⟩ := find?_directory_iff.mp reached
            rw [startOf_parent? _ has] at direct
            obtain ⟨last, counted, midway, divided, front, back⟩ := leads_of_parent? has leads
            obtain ⟨rfl, rfl⟩ := front.unique direct
            rw [divided] at plain
            -- The parent is new, and what follows it stays below it.
            have absent := ih (fun member => plain (List.mem_append_left _ member)) there made
              reached around
            exact grown.at?_of_leads (fun member => plain (List.mem_append_right _ member))
              absent back
        · cases impossible

end FileTree

end Scaffold
