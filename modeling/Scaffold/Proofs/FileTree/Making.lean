import Scaffold.Proofs.FileTree.Growth
import Scaffold.Proofs.FileTree.LinkFree

/-! Making a chain of directories in a tree without links.

The names in a path say which directories have to be there, the outermost first. What is missing can
be made, so only two things are in the way: a name that is too long, and an entry that is no
directory. `passage` goes along the names up to there. Main statement: `makeDirectories_cleared`, by
which making the directories of a path makes all on its passage, and fails with what is in the way. -/

set_option autoImplicit false

namespace Scaffold.FileTree

open Scaffold.Path (namesOf EndInName)

variable {tree first second before between after : FileTree} {directory reached location : Location}
  {name : Name} {names front rest : List Name} {components : List Component} {path : Path}
  {fault : Fault} {mode : UInt32} {links : Nat}

def isTaken (tree : FileTree) (location : Location) : Bool :=
  (tree.at? location).any fun entry => !entry.isDirectory

/-- The locations that names say one after the other, up to the first name that no directory can
have, and why it cannot. -/
def passage (tree : FileTree) : Location → List Name → List Location × Option Fault
  | _, [] => ([], none)
  | directory, name :: rest =>
      if tree.limits.nameBytes < name.length then ([], some .nameTooLong)
      else if tree.isTaken (name :: directory) then
        ([], some (if rest = [] then .alreadyExists else .notADirectory))
      else
        ((name :: directory) :: (passage tree (name :: directory) rest).1,
          (passage tree (name :: directory) rest).2)

def enter (tree : FileTree) : Location → List Name → Except Fault Location
  | directory, [] => .ok directory
  | directory, name :: rest =>
      if tree.limits.nameBytes < name.length then .error .nameTooLong
      else match tree.at? (name :: directory) with
        | none => .error .notFound
        | some (.directory _) => enter tree (name :: directory) rest
        | some _ => .error .notADirectory

/-! ### The passage -/

theorem isTaken_of_none (missing : tree.at? location = none) : tree.isTaken location = false := by
  rw [isTaken, missing]
  rfl

theorem isTaken_of_isDirectory (inside : tree.IsDirectory location) :
    tree.isTaken location = false := by
  obtain ⟨mode, found⟩ := inside
  have there : tree.at? location = some (.directory mode) := found
  rw [isTaken, there]
  rfl

theorem passage_of_free (short : ¬ tree.limits.nameBytes < name.length)
    (free : tree.isTaken (name :: directory) = false) (rest : List Name) :
    tree.passage directory (name :: rest) =
      ((name :: directory) :: (tree.passage (name :: directory) rest).1,
        (tree.passage (name :: directory) rest).2) := by
  rw [passage, if_neg short, free, if_neg (by decide)]

theorem passage_congr (limits : second.limits = first.limits)
    (same : ∀ front, front <+: names → front ≠ [] →
      second.isTaken (front.reverse ++ directory) = first.isTaken (front.reverse ++ directory)) :
    second.passage directory names = first.passage directory names := by
  induction names generalizing directory with
  | nil => rfl
  | cons name rest ih =>
      have itself : second.isTaken (name :: directory) = first.isTaken (name :: directory) :=
        same [name] (List.prefix_append [name] rest) (List.cons_ne_nil _ _)
      have onward : second.passage (name :: directory) rest =
          first.passage (name :: directory) rest := by
        refine ih fun front begins _ => ?_
        have deeper := same (name :: front) (List.cons_prefix_cons.mpr ⟨rfl, begins⟩)
          (List.cons_ne_nil _ _)
        rwa [reverse_cons_append] at deeper
      rw [passage, passage, limits, itself, onward]

theorem exists_front_of_mem_passage (member : location ∈ (tree.passage directory names).1) :
    ∃ front, front <+: names ∧ front ≠ [] ∧ location = front.reverse ++ directory := by
  induction names generalizing directory with
  | nil => cases member
  | cons name rest ih =>
      rw [passage] at member
      split at member
      · cases member
      · split at member
        · cases member
        · rcases List.mem_cons.mp member with rfl | deeper
          · exact ⟨[name], List.prefix_append [name] rest, List.cons_ne_nil _ _, rfl⟩
          · obtain ⟨front, begins, -, rfl⟩ := ih deeper
            refine ⟨name :: front, List.cons_prefix_cons.mpr ⟨rfl, begins⟩, List.cons_ne_nil _ _, ?_⟩
            rw [reverse_cons_append]

/-- Where nothing is in the way of the first names, the passage goes on with the others. -/
theorem passage_append (clear : (tree.passage directory front).2 = none) (rest : List Name) :
    tree.passage directory (front ++ rest) =
      ((tree.passage directory front).1 ++ (tree.passage (front.reverse ++ directory) rest).1,
        (tree.passage (front.reverse ++ directory) rest).2) := by
  induction front generalizing directory with
  | nil => rfl
  | cons name front ih =>
      rw [passage] at clear
      split at clear
      · cases clear
      next short =>
        split at clear
        · cases clear
        next free =>
          have open' := eq_false_of_ne_true free
          rw [List.cons_append, passage_of_free short open', passage_of_free short open', ih clear,
            reverse_cons_append]
          rfl

theorem short_of_passage (clear : (tree.passage directory names).2 = none) :
    ∀ name ∈ names, ¬ tree.limits.nameBytes < name.length := by
  induction names generalizing directory with
  | nil => exact nofun
  | cons name rest ih =>
      rw [passage] at clear
      split at clear
      · cases clear
      next short =>
        split at clear
        · cases clear
        next => exact List.forall_mem_cons.mpr ⟨short, ih clear⟩

theorem mem_passage_of_clear (clear : (tree.passage directory names).2 = none)
    (some' : names ≠ []) : names.reverse ++ directory ∈ (tree.passage directory names).1 := by
  induction names generalizing directory with
  | nil => exact absurd rfl some'
  | cons name rest ih =>
      rw [passage] at clear ⊢
      split at clear
      · cases clear
      next short =>
        split at clear
        · cases clear
        next free =>
          rw [if_neg short, if_neg free, reverse_cons_append]
          by_cases last : rest = []
          · rw [last]
            exact List.mem_cons_self
          · exact List.mem_cons_of_mem _ (ih clear last)

theorem passage_of_isDirectory (short : ∀ name ∈ names, ¬ tree.limits.nameBytes < name.length)
    (inside : tree.IsDirectory (names.reverse ++ directory)) :
    (tree.passage directory names).2 = none ∧
      ∀ location ∈ (tree.passage directory names).1, tree.IsDirectory location := by
  induction names generalizing directory with
  | nil => exact ⟨rfl, nofun⟩
  | cons name rest ih =>
      obtain ⟨fits, further⟩ := List.forall_mem_cons.mp short
      rw [reverse_cons_append] at inside
      have first := inside.of_append
      obtain ⟨clear, inner⟩ := ih further inside
      rw [passage_of_free fits (isTaken_of_isDirectory first)]
      exact ⟨clear, List.forall_mem_cons.mpr ⟨first, inner⟩⟩

/-- Below a location where nothing is, only the length of a name can be in the way, and what comes
after that name makes no difference. -/
theorem passage_append_of_missing (missing : tree.at? directory = none)
    (blocked : (tree.passage directory front).2 = some fault) (rest : List Name) :
    tree.passage directory (front ++ rest) = tree.passage directory front := by
  induction front generalizing directory with
  | nil => cases blocked
  | cons name front ih =>
      have below : tree.at? (name :: directory) = none := by
        cases found : tree.at? (name :: directory) with
        | none => rfl
        | some entry => exact absurd (isDirectory_of_at?_cons found) (not_isDirectory_of_none missing)
      by_cases long : tree.limits.nameBytes < name.length
      · rw [List.cons_append, passage, passage, if_pos long, if_pos long]
      · have free := isTaken_of_none below
        rw [passage_of_free long free] at blocked
        rw [List.cons_append, passage_of_free long free, passage_of_free long free,
          ih below blocked]

/-! ### Entering directories -/

theorem enter_of_isDirectory (short : ∀ name ∈ names, ¬ tree.limits.nameBytes < name.length)
    (inside : tree.IsDirectory (names.reverse ++ directory)) :
    tree.enter directory names = .ok (names.reverse ++ directory) := by
  induction names generalizing directory with
  | nil => rfl
  | cons name rest ih =>
      obtain ⟨fits, further⟩ := List.forall_mem_cons.mp short
      rw [reverse_cons_append] at inside ⊢
      obtain ⟨mode, found⟩ := inside.of_append
      have there : tree.at? (name :: directory) = some (.directory mode) := found
      rw [enter, if_neg fits, there]
      exact ih further inside

theorem enter_eq_ok (entered : tree.enter directory names = .ok reached)
    (start : tree.IsDirectory directory) :
    reached = names.reverse ++ directory ∧ tree.IsDirectory reached ∧
      ∀ name ∈ names, ¬ tree.limits.nameBytes < name.length := by
  induction names generalizing directory with
  | nil =>
      cases entered
      exact ⟨rfl, start, nofun⟩
  | cons name rest ih =>
      rw [enter] at entered
      split at entered
      · cases entered
      next short =>
        cases found : tree.at? (name :: directory) with
        | none =>
            rw [found] at entered
            cases entered
        | some entry =>
            rw [found] at entered
            cases entry with
            | directory mode =>
                obtain ⟨same, inside, further⟩ := ih entered ⟨mode, found⟩
                rw [reverse_cons_append]
                exact ⟨same, inside, List.forall_mem_cons.mpr ⟨short, further⟩⟩
            | file _ => cases entered
            | link _ => cases entered

/-- Where something is in the way of entering directories, nothing is made before it. -/
theorem passage_of_blocked (blocked : tree.enter directory front = .error fault)
    (other : fault ≠ .notFound) (name : Name) :
    (tree.passage directory (front ++ [name])).2 = some fault ∧
      ∀ location ∈ (tree.passage directory (front ++ [name])).1, tree.IsDirectory location := by
  have more (front : List Name) : front ++ [name] ≠ [] :=
    List.append_ne_nil_of_right_ne_nil _ (List.cons_ne_nil _ _)
  induction front generalizing directory with
  | nil => cases blocked
  | cons first front ih =>
      rw [enter] at blocked
      rw [List.cons_append]
      split at blocked
      next long =>
        cases blocked
        rw [passage, if_pos long]
        exact ⟨rfl, nofun⟩
      next short =>
        cases found : tree.at? (first :: directory) with
        | none =>
            rw [found] at blocked
            cases blocked
            exact absurd rfl other
        | some entry =>
            rw [found] at blocked
            have taken (leaf : entry.isDirectory = false) :
                tree.passage directory (first :: (front ++ [name])) =
                  ([], some .notADirectory) := by
              have there : tree.isTaken (first :: directory) = true := by
                rw [isTaken, found, Option.any_some, leaf]
                rfl
              rw [passage, if_neg short, if_pos there, if_neg (more front)]
            cases entry with
            | directory mode =>
                have inside : tree.IsDirectory (first :: directory) := ⟨mode, found⟩
                obtain ⟨stop, inner⟩ := ih blocked
                rw [passage_of_free short (isTaken_of_isDirectory inside)]
                exact ⟨stop, List.forall_mem_cons.mpr ⟨inside, inner⟩⟩
            | file _ =>
                cases blocked
                rw [taken rfl]
                exact ⟨rfl, nofun⟩
            | link _ =>
                cases blocked
                rw [taken rfl]
                exact ⟨rfl, nofun⟩

theorem passage_of_missing (absent : tree.enter directory front = .error .notFound) :
    tree.at? (front.reverse ++ directory) = none ∧
      ∀ fault, (tree.passage directory front).2 = some fault → ∀ rest,
        tree.passage directory (front ++ rest) = tree.passage directory front := by
  induction front generalizing directory with
  | nil => cases absent
  | cons first front ih =>
      rw [enter] at absent
      rw [reverse_cons_append]
      split at absent
      · cases absent
      next short =>
        cases found : tree.at? (first :: directory) with
        | none =>
            have free := isTaken_of_none found
            constructor
            · -- There is nothing below a location where nothing is.
              cases there : tree.at? (front.reverse ++ first :: directory) with
              | none => rfl
              | some entry =>
                  by_cases last : front = []
                  · rw [last, List.reverse_nil, List.nil_append, found] at there
                    cases there
                  · exact absurd (isDirectory_of_at?_append (by simpa using last) there)
                      (not_isDirectory_of_none found)
            · intro fault blocked rest
              rw [passage_of_free short free] at blocked
              rw [List.cons_append, passage_of_free short free, passage_of_free short free,
                passage_append_of_missing found blocked]
        | some entry =>
            rw [found] at absent
            cases entry with
            | directory mode =>
                have free : tree.isTaken (first :: directory) = false :=
                  isTaken_of_isDirectory ⟨mode, found⟩
                obtain ⟨missing, same⟩ := ih absent
                refine ⟨missing, fun fault blocked rest => ?_⟩
                rw [passage_of_free short free] at blocked
                rw [List.cons_append, passage_of_free short free, passage_of_free short free,
                  same fault blocked]
            | file _ => cases absent
            | link _ => cases absent

/-! ### Where a directory is made -/

theorem walk_append_here (linkFree : tree.LinkFree) (level : .up ∉ components) :
    tree.walk .inspect links directory (components ++ [.here]) =
      (tree.enter directory (namesOf components)).map Destination.existing := by
  induction components generalizing directory with
  | nil => exact walk_here.trans walk_nil
  | cons component components ih =>
      have lower := List.not_mem_of_not_mem_cons level
      cases component with
      | blank => exact walk_blank.trans (ih lower)
      | here => exact walk_here.trans (ih lower)
      | up => exact absurd List.mem_cons_self level
      | entry name =>
          have more : components ++ [.here] ≠ [] :=
            List.append_ne_nil_of_right_ne_nil _ (List.cons_ne_nil _ _)
          change tree.walk .inspect links directory (.entry name :: (components ++ [.here])) =
            (tree.enter directory (name :: namesOf components)).map Destination.existing
          rw [enter]
          by_cases long : tree.limits.nameBytes < name.length
          · have refused : tree.walk .inspect links directory
                (.entry name :: (components ++ [.here])) = .error .nameTooLong := by
              cases links <;> rw [walk, walkWith, if_neg open_of_inspect, if_pos long]
            rw [refused, if_pos long]
            rfl
          · rw [walk_entry open_of_inspect long, if_neg long]
            cases found : tree.at? (name :: directory) with
            | none => exact if_neg more
            | some entry =>
                cases entry with
                | directory mode => exact ih lower
                | file content => exact if_neg more
                | link target => exact absurd found (linkFree _ _)

theorem resolveParent_of_level {before : List Component} (linkFree : tree.LinkFree)
    (level : .up ∉ path.components) (divided : path.components = before ++ [.entry name])
    (checked : tree.checkPath path = .ok ()) :
    tree.resolveParent path =
      (tree.enter (startOf tree.workingDirectory path) (namesOf before)).map
        fun parent => (parent, .named name false) := by
  rw [divided] at level
  rw [resolveParent, checked, divided, splitLast_append_entry]
  simp only [bind, Except.bind]
  rw [walk_append_here linkFree fun member => level (List.mem_append_left _ member)]
  cases tree.enter (startOf tree.workingDirectory path) (namesOf before) with
  | error fault => rfl
  | ok parent => rfl

theorem makeDirectory?_of_resolved (mode : UInt32)
    (resolved : tree.resolveParent path = .ok (directory, .named name false)) :
    tree.makeDirectory? path mode =
      if tree.limits.nameBytes < name.length then .error .nameTooLong
      else match tree.at? (name :: directory) with
        | some _ => .error .alreadyExists
        | none =>
            .ok (.makeDirectory (name :: directory) (tree.newMode mode (name :: directory))) := by
  rw [makeDirectory?, resolved]
  rfl

/-! ### Making directories -/

/-- At each of some locations there is a directory now, where nothing was a new one that was made for a
mode; nothing else is different. -/
structure Cleared (mode : UInt32) (locations : List Location) (before after : FileTree) :
    Prop where
  limits_eq : after.limits = before.limits
  workingDirectory_eq : after.workingDirectory = before.workingDirectory
  at?_eq : ∀ location, after.at? location =
    if location ∈ locations then
      (before.at? location).or (some (.directory (before.newMode mode location)))
    else before.at? location

namespace Cleared

variable {locations further : List Location}

theorem refl (mode : UInt32) (inside : ∀ location ∈ locations, tree.IsDirectory location) :
    Cleared mode locations tree tree where
  limits_eq := rfl
  workingDirectory_eq := rfl
  at?_eq := by
    intro location
    split
    next member =>
      obtain ⟨present, found⟩ := inside location member
      have there : tree.at? location = some (.directory present) := found
      rw [there, Option.some_or]
    next => rfl

theorem groupBit_eq (cleared : Cleared mode locations before after) (location : Location) :
    after.groupBit location = before.groupBit location := by
  refine groupBit_eq_of_made mode ?_ ?_ location
  · intro other entry found
    rw [cleared.at?_eq, found, Option.some_or, ite_self]
  · intro other entry missing found
    rw [cleared.at?_eq, missing, Option.none_or] at found
    split at found
    · exact (Option.some.inj found).symm
    · cases found

theorem trans (front : Cleared mode locations before between)
    (back : Cleared mode further between after) (within : locations ⊆ further) :
    Cleared mode further before after where
  limits_eq := back.limits_eq.trans front.limits_eq
  workingDirectory_eq := back.workingDirectory_eq.trans front.workingDirectory_eq
  at?_eq := by
    intro location
    rw [back.at?_eq, front.at?_eq, newMode_congr (front.groupBit_eq location)]
    by_cases member : location ∈ locations
    · rw [if_pos member, if_pos (within member), if_pos (within member), Option.or_assoc,
        Option.some_or]
    · rw [if_neg member]

theorem append_left (inside : ∀ location ∈ locations, before.IsDirectory location)
    (cleared : Cleared mode further before after) :
    Cleared mode (locations ++ further) before after where
  limits_eq := cleared.limits_eq
  workingDirectory_eq := cleared.workingDirectory_eq
  at?_eq := by
    intro location
    rw [cleared.at?_eq]
    by_cases new : location ∈ further
    · rw [if_pos new, if_pos (List.mem_append_right _ new)]
    · rw [if_neg new]
      split
      next member =>
        obtain ⟨present, found⟩ := inside location ((List.mem_append.mp member).resolve_right new)
        have there : before.at? location = some (.directory present) := found
        rw [there, Option.some_or]
      next => rfl

theorem isTaken_eq (cleared : Cleared mode locations before after) (location : Location) :
    after.isTaken location = before.isTaken location := by
  rw [isTaken, isTaken, cleared.at?_eq]
  split
  · cases before.at? location with
    | none => rfl
    | some entry => rfl
  · rfl

theorem linkFree (cleared : Cleared mode locations before after) (linkFree : before.LinkFree) :
    after.LinkFree := by
  intro location target linked
  rw [cleared.at?_eq] at linked
  split at linked
  · cases found : before.at? location with
    | none =>
        rw [found] at linked
        cases linked
    | some entry =>
        rw [found] at linked
        cases linked
        exact linkFree _ _ found
  · exact linkFree _ _ linked

end Cleared

theorem passage_eq_of_cleared {locations : List Location}
    (cleared : Cleared mode locations before after) (directory : Location) (names : List Name) :
    after.passage directory names = before.passage directory names :=
  passage_congr cleared.limits_eq fun _ _ _ => cleared.isTaken_eq _

theorem isDirectory_iff_spot (linkFree : tree.LinkFree) (level : .up ∉ path.components)
    (checked : tree.checkPath path = .ok ()) :
    tree.isDirectory path = true ↔
      (∀ name ∈ path.names, ¬ tree.limits.nameBytes < name.length) ∧
        tree.IsDirectory (tree.spot path) := by
  rw [isDirectory_iff]
  constructor
  · intro found
    obtain ⟨location, mode, found⟩ := found
    obtain ⟨-, short, rfl, present, -⟩ := (find?_eq_ok_iff_spot linkFree level).mp found
    exact ⟨short, mode, present⟩
  · intro inside
    obtain ⟨short, mode, present⟩ := inside
    exact ⟨_, mode, (find?_eq_ok_iff_spot linkFree level).mpr
      ⟨checked, short, rfl, present, Or.inl rfl⟩⟩

theorem runIn_ensureDirectory_of_error {world : World}
    (refused : world.tree.makeDirectory? path mode = .error fault)
    (apart : world.tree.isDirectory path = false) :
    Action.runIn world (ensureDirectory path mode) = (.error fault, world) := by
  rw [ensureDirectory, Action.runIn_tree_bind, refused]
  simp only
  rw [runIn_unless_isDirectory, apart]
  rfl

/-- An action makes the locations of a passage, and fails with what is in the way, if anything is. -/
def Clears (world : World) (action : Action Fault Unit) (mode : UInt32)
    (course : List Location × Option Fault) : Prop :=
  ∃ next, Action.runIn world action = (course.2.elim (.ok ()) .error, next) ∧
    Cleared mode course.1 world.tree next.tree

theorem ensureDirectory_cleared_last {world : World} (mode : UInt32)
    (linkFree : world.tree.LinkFree) (around : world.tree.IsDirectory directory)
    (resolved : world.tree.resolveParent path = .ok (directory, .named name false))
    (apart : world.tree.isDirectory path = false)
    (absent : ¬ world.tree.limits.nameBytes < name.length →
      ¬ world.tree.IsDirectory (name :: directory)) :
    Clears world (ensureDirectory path mode) mode
      (world.tree.passage directory [name]) := by
  have made := makeDirectory?_of_resolved mode resolved
  by_cases long : world.tree.limits.nameBytes < name.length
  · rw [if_pos long] at made
    rw [passage, if_pos long, Clears, runIn_ensureDirectory_of_error made apart]
    exact ⟨world, rfl, .refl _ nofun⟩
  · rw [if_neg long] at made
    cases there : world.tree.at? (name :: directory) with
    | some entry =>
        rw [there] at made
        have taken : world.tree.isTaken (name :: directory) = true := by
          rw [isTaken, there]
          cases entry with
          | directory present => exact absurd ⟨present, there⟩ (absent long)
          | file _ => rfl
          | link target => exact absurd there (linkFree _ _)
        rw [passage, if_neg long, if_pos taken, Clears, runIn_ensureDirectory_of_error made apart]
        exact ⟨world, rfl, .refl _ nofun⟩
    | none =>
        rw [there] at made
        rw [passage_of_free long (isTaken_of_none there), Clears, ensureDirectory,
          Action.runIn_tree_bind, made]
        refine ⟨_, rfl, (apply_frame _ _).1, (apply_frame _ _).2, fun location => ?_⟩
        rw [at?_makeDirectory around there]
        simp only [passage, List.mem_singleton]
        by_cases here : location = name :: directory
        · rw [if_pos here, if_pos here, here, there]
          rfl
        · rw [if_neg here, if_neg here]

theorem ensureDirectory_cleared {world : World} {before : List Component} (mode : UInt32)
    (linkFree : world.tree.LinkFree) (level : .up ∉ path.components)
    (divided : path.components = before ++ [.entry name])
    (checked : world.tree.checkPath path = .ok ())
    (found : world.tree.enter (startOf world.tree.workingDirectory path) (namesOf before) ≠
      .error .notFound) :
    Clears world (ensureDirectory path mode) mode
      (world.tree.passage (startOf world.tree.workingDirectory path) path.names) := by
  have named := Path.names_eq_append divided
  have resolved := resolveParent_of_level linkFree level divided checked
  have spotted := isDirectory_iff_spot linkFree level checked
  cases inside : world.tree.isDirectory path with
  | true =>
      obtain ⟨cause, -, refused⟩ := makeDirectory?_of_isDirectory mode inside
      obtain ⟨short, there⟩ := spotted.mp inside
      obtain ⟨clear, directories⟩ := passage_of_isDirectory short there
      refine ⟨world, ?_, .refl _ directories⟩
      rw [ensureDirectory, Action.runIn_tree_bind, refused, clear]
      simp only
      rw [runIn_unless_isDirectory, if_pos inside]
      rfl
  | false =>
      have begin' := IsDirectory.startOf world.tree.working_directory path
      rw [spot, named] at spotted
      rw [named]
      generalize startOf world.tree.workingDirectory path = start at begin' resolved found spotted ⊢
      cases entered : world.tree.enter start (namesOf before) with
      | error fault =>
          rw [entered] at resolved found
          obtain ⟨stop, directories⟩ :=
            passage_of_blocked entered (fun same => found (congrArg Except.error same)) name
          have refused : world.tree.makeDirectory? path mode = .error fault := by
            rw [makeDirectory?, resolved]
            rfl
          rw [Clears, stop, runIn_ensureDirectory_of_error refused inside]
          exact ⟨world, rfl, .refl _ directories⟩
      | ok parent =>
          rw [entered] at resolved
          obtain ⟨rfl, around, short⟩ := enter_eq_ok entered begin'
          obtain ⟨clear, directories⟩ := passage_of_isDirectory short around
          have absent (fits : ¬ world.tree.limits.nameBytes < name.length) :
              ¬ world.tree.IsDirectory (name :: ((namesOf before).reverse ++ start)) := by
            intro there
            have all := List.forall_mem_append.mpr ⟨short, List.forall_mem_singleton.mpr fits⟩
            rw [spotted.mpr ⟨all, by rwa [List.reverse_concat]⟩] at inside
            cases inside
          obtain ⟨next, ran, cleared⟩ :=
            ensureDirectory_cleared_last mode linkFree around resolved inside absent
          rw [passage_append clear]
          exact ⟨next, ran, cleared.append_left directories⟩

theorem makeDirectory?_eq_notFound_iff {entered : Except Fault Location} (mode : UInt32)
    (resolved : tree.resolveParent path =
      entered.map fun parent => (parent, .named name false)) :
    tree.makeDirectory? path mode = .error .notFound ↔ entered = .error .notFound := by
  cases entered with
  | error fault =>
      have made : tree.makeDirectory? path mode = .error fault := by
        rw [makeDirectory?, resolved]
        rfl
      rw [made, Except.error.injEq, Except.error.injEq]
  | ok parent =>
      rw [makeDirectory?_of_resolved mode resolved]
      constructor
      · intro missing
        split at missing
        · cases missing
        · cases found : tree.at? (name :: parent) <;> rw [found] at missing <;> cases missing
      · exact nofun

theorem runIn_makeDirectories_of_found {world : World} (outer : List Path)
    (found : world.tree.makeDirectory? path mode ≠ .error .notFound) :
    Action.runIn world (makeDirectories mode (path :: outer)) =
      Action.runIn world (ensureDirectory path mode) := by
  rw [makeDirectories, ensureDirectory, Action.runIn_tree_bind, Action.runIn_tree_bind]
  cases made : world.tree.makeDirectory? path mode with
  | ok step => rfl
  | error fault =>
      cases fault with
      | notFound => exact absurd made found
      | _ => rfl

theorem runIn_makeDirectories_of_notFound {world : World} (outer : List Path)
    (missing : world.tree.makeDirectory? path mode = .error .notFound) :
    Action.runIn world (makeDirectories mode (path :: outer)) =
      match Action.runIn world (makeDirectories mode outer) with
      | (.ok _, next) => Action.runIn next (ensureDirectory path mode)
      | (.error fault, next) => (.error fault, next) := by
  rw [makeDirectories, Action.runIn_tree_bind, missing]
  simp only
  rw [Action.runIn_bind]
  rcases Action.runIn world (makeDirectories mode outer) with ⟨result, next⟩
  cases result with
  | ok _ => rfl
  | error cause => rfl

theorem isEmpty_of_checkPath (checked : tree.checkPath path = .ok ()) : path.isEmpty = false := by
  rw [← Bool.not_eq_true]
  intro empty
  rw [checkPath, empty] at checked
  split at checked
  · cases checked
  · cases checked

theorem makeDirectories_cleared_last {world : World} {before : List Component} {outer : List Path}
    (mode : UInt32) (linkFree : world.tree.LinkFree) (level : .up ∉ path.components)
    (divided : path.components = before ++ [.entry name])
    (checked : world.tree.checkPath path = .ok ())
    (found : world.tree.enter (startOf world.tree.workingDirectory path) (namesOf before) =
      .error .notFound)
    (around : Clears world (makeDirectories mode outer) mode
      (world.tree.passage (startOf world.tree.workingDirectory path) (namesOf before))) :
    Clears world (makeDirectories mode (path :: outer)) mode
      (world.tree.passage (startOf world.tree.workingDirectory path) path.names) := by
  have noticed := makeDirectory?_eq_notFound_iff mode
    (resolveParent_of_level linkFree level divided checked)
  have named := Path.names_eq_append divided
  obtain ⟨next, ran, cleared⟩ := around
  obtain ⟨missing, same⟩ := passage_of_missing found
  rw [Clears, runIn_makeDirectories_of_notFound _ (noticed.mpr found), ran, named]
  cases blocked : (world.tree.passage (startOf world.tree.workingDirectory path)
      (namesOf before)).2 with
  | some fault =>
      rw [same fault blocked, blocked]
      exact ⟨next, rfl, cleared⟩
  | none =>
      -- All around it is made now, and the rest of the passage is as it was.
      have some' : namesOf before ≠ [] := by
        intro none
        rw [none] at found
        cases found
      have inside : next.tree.IsDirectory
          ((namesOf before).reverse ++ startOf world.tree.workingDirectory path) := by
        have made := cleared.at?_eq
          ((namesOf before).reverse ++ startOf world.tree.workingDirectory path)
        rw [if_pos (mem_passage_of_clear blocked some'), missing, Option.none_or] at made
        exact ⟨_, made⟩
      have short := short_of_passage blocked
      rw [← cleared.limits_eq] at short
      have entered : next.tree.enter (startOf next.tree.workingDirectory path)
          (namesOf before) ≠ .error .notFound := by
        rw [cleared.workingDirectory_eq, enter_of_isDirectory short inside]
        intro same
        cases same
      obtain ⟨last, ran', cleared'⟩ := ensureDirectory_cleared mode (cleared.linkFree linkFree) level
        divided ((checkPath_congr cleared.limits_eq path).trans checked) entered
      rw [cleared.workingDirectory_eq, passage_eq_of_cleared cleared, named] at ran' cleared'
      refine ⟨last, ran', cleared.trans cleared' ?_⟩
      rw [passage_append blocked]
      exact List.subset_append_left _ _

theorem makeDirectories_cleared {world : World} {depth : Nat} (mode : UInt32)
    (linkFree : world.tree.LinkFree) (level : .up ∉ path.components)
    (ending : path.names = [] ∨ EndInName path.components)
    (checked : world.tree.checkPath path = .ok ()) (deep : path.bytes.length ≤ depth) :
    Clears world (makeDirectories mode (path.ancestors depth)) mode
      (world.tree.passage (startOf world.tree.workingDirectory path) path.names) := by
  -- By induction along the chain: each parent is shorter, and has its own passage made before.
  induction depth generalizing path with
  | zero =>
      have empty : path.isEmpty = true := List.isEmpty_iff_length_eq_zero.mpr (Nat.le_zero.mp deep)
      rw [isEmpty_of_checkPath checked] at empty
      cases empty
  | succ depth ih =>
      rw [Path.ancestors, isEmpty_of_checkPath checked, if_neg (by decide)]
      rcases ending with unnamed | ⟨before, name, divided⟩
      · -- A path without names leads to where resolution starts.
        have inside : world.tree.isDirectory path = true := by
          rw [isDirectory_iff_spot linkFree level checked, spot, unnamed]
          exact ⟨List.forall_mem_nil _, IsDirectory.startOf world.tree.working_directory path⟩
        rw [unnamed, Clears, makeDirectories_of_isDirectory mode _ inside]
        exact ⟨world, rfl, .refl _ (List.forall_mem_nil _)⟩
      · by_cases found : world.tree.enter (startOf world.tree.workingDirectory path)
            (namesOf before) = .error .notFound
        · obtain ⟨parent, has, front⟩ := Path.exists_parent? divided
          have written : parent.isEmpty = false := by
            rw [← Bool.not_eq_true]
            intro empty
            rw [← front, Path.names_of_isEmpty empty] at found
            cases found
          have shorter := Path.length_parent?_lt has level
            (by rw [Path.names_eq_append divided]; exact List.concat_ne_nil _ _)
          have around := ih (Path.level_of_parent? has level) (Path.endInName_parent? has level)
            (checkPath_of_beginning (Path.parent?_bytes_begin has) written checked) (by omega)
          rw [startOf_parent? _ has, front] at around
          rw [has, Option.map_some, Option.getD_some]
          exact makeDirectories_cleared_last mode linkFree level divided checked found around
        · have noticed := makeDirectory?_eq_notFound_iff mode
            (resolveParent_of_level linkFree level divided checked)
          rw [Clears, runIn_makeDirectories_of_found _ (fun missing => found (noticed.mp missing))]
          exact ensureDirectory_cleared mode linkFree level divided checked found

theorem runIn_makeDirectories_of_unchecked {world : World} (mode : UInt32)
    (written : path.isEmpty = false) (refused : world.tree.checkPath path = .error fault) :
    world.tree.isDirectory path = false ∧
      Action.runIn world (makeDirectories mode path.chain) = (.error fault, world) := by
  have apart : world.tree.isDirectory path = false := by
    rw [← Bool.not_eq_true, isDirectory_iff]
    intro found
    obtain ⟨location, present, found⟩ := found
    rw [(find?_eq_ok_iff.mp found).1] at refused
    cases refused
  have made : world.tree.makeDirectory? path mode = .error fault := by
    rw [makeDirectory?, resolveParent, refused]
    rfl
  have other : fault ≠ .notFound := by
    rintro rfl
    rw [checkPath, written] at refused
    split at refused
    · cases refused
    · rw [if_neg (by decide)] at refused
      split at refused
      · cases refused
      · cases refused
  have chained : ∃ outer, path.chain = path :: outer := by
    cases bytes : path.bytes with
    | nil =>
        rw [Path.isEmpty, bytes] at written
        cases written
    | cons byte further =>
        rw [Path.chain, bytes, List.length_cons, Path.ancestors, written]
        exact ⟨_, rfl⟩
  obtain ⟨outer, chained⟩ := chained
  refine ⟨apart, ?_⟩
  rw [chained, runIn_makeDirectories_of_found outer, runIn_ensureDirectory_of_error made apart]
  rw [made]
  exact fun same => other (Except.error.inj same)

end Scaffold.FileTree
