import Scaffold.Proofs.FileTree.Making
import Scaffold.Proofs.FileTree.Receiving
import Scaffold.Proofs.Output.Footprint

/-! The course of a write in a tree without links.

What a write comes to is decided before it begins: by what is at its path, by what is in the way of
the directories around it (`clearance`), and by whether the path takes a file (`admission`). Main
statement: `write_takes_course`. Trees that are the same along a path in these respects (`SameWay`)
let a write take the same course. -/

set_option autoImplicit false

namespace Scaffold

open FileTree

namespace FileTree

variable {tree first second before after prepared : FileTree} {path : Path}
  {location directory start : Location} {name temporary again : Name} {names : List Name}
  {mode : UInt32}

/-! ### The directories around a path -/

/-- The directories that have to be there around a path, and what is in the way of them. -/
def clearance (tree : FileTree) (path : Path) : List Location × Option Fault :=
  match path.parent? with
  | none => ([], none)
  | some parent =>
      if parent.isEmpty then ([], none)
      else match tree.checkPath parent with
        | .error fault => ([], some fault)
        | .ok _ => tree.passage (startOf tree.workingDirectory parent) parent.names

theorem free_of_mem_passage (member : location ∈ (tree.passage directory names).1) :
    tree.isTaken location = false := by
  induction names generalizing directory with
  | nil => cases member
  | cons name rest ih =>
      rw [passage] at member
      split at member
      · cases member
      · split at member
        · cases member
        next free =>
          rcases List.mem_cons.mp member with rfl | deeper
          · exact eq_false_of_ne_true free
          · exact ih deeper

theorem clearance_eq_passage {parent : Path} (has : path.parent? = some parent)
    (level : .up ∉ path.components) (checked : tree.checkPath parent = .ok ()) :
    tree.clearance path =
      tree.passage (startOf tree.workingDirectory path) path.names.dropLast := by
  rw [clearance, has]
  simp only
  rw [isEmpty_of_checkPath checked, if_neg (by decide), checked, Path.names_parent? has level,
    startOf_parent? _ has]

theorem clearance_cases (tree : FileTree) (level : .up ∉ path.components) :
    (tree.clearance path).1 = [] ∨ tree.clearance path =
      tree.passage (startOf tree.workingDirectory path) path.names.dropLast := by
  cases has : path.parent? with
  | none =>
      rw [clearance, has]
      exact Or.inl rfl
  | some parent =>
      cases checked : tree.checkPath parent with
      | ok _ => exact Or.inr (clearance_eq_passage has level checked)
      | error fault =>
          rw [clearance, has]
          simp only
          rw [checked]
          left
          split
          · rfl
          · rfl

theorem around_of_clearance (level : .up ∉ path.components)
    (clear : (tree.clearance path).2 = none)
    (made : ∀ location ∈ (tree.clearance path).1, tree.IsDirectory location) :
    (∀ name ∈ path.names.dropLast, ¬ tree.limits.nameBytes < name.length) ∧
      tree.IsDirectory (path.names.dropLast.reverse ++ startOf tree.workingDirectory path) := by
  have begin' := IsDirectory.startOf tree.working_directory path
  have unnamed (none : path.names.dropLast = []) :
      (∀ name ∈ path.names.dropLast, ¬ tree.limits.nameBytes < name.length) ∧
        tree.IsDirectory (path.names.dropLast.reverse ++ startOf tree.workingDirectory path) := by
    rw [none]
    exact ⟨nofun, begin'⟩
  cases has : path.parent? with
  | none =>
      apply unnamed
      by_contra named
      obtain ⟨front, name, steps⟩ := Path.exists_last_step level fun none => named (by rw [none]; rfl)
      obtain ⟨-, parent, some', -⟩ := Path.fileName?_of_steps steps
      rw [has] at some'
      cases some'
  | some parent =>
      have names := Path.names_parent? has level
      cases empty : parent.isEmpty with
      | true => exact unnamed (names.symm.trans (Path.names_of_isEmpty empty))
      | false =>
          cases checked : tree.checkPath parent with
          | error fault =>
              rw [clearance, has] at clear
              simp only at clear
              rw [empty, if_neg (by decide), checked] at clear
              cases clear
          | ok _ =>
              rw [clearance_eq_passage has level checked] at clear made
              refine ⟨short_of_passage clear, ?_⟩
              by_cases none : path.names.dropLast = []
              · exact (unnamed none).2
              · exact made _ (mem_passage_of_clear clear none)

theorem Cleared.isDirectory {locations : List Location} (cleared : Cleared mode locations before after)
    (member : location ∈ locations) (free : before.isTaken location = false) :
    after.IsDirectory location := by
  have there := cleared.at?_eq location
  rw [if_pos member] at there
  rw [isTaken] at free
  cases found : before.at? location with
  | none =>
      rw [found] at there
      exact ⟨_, there⟩
  | some entry =>
      rw [found] at there free
      cases entry with
      | directory present => exact ⟨present, there⟩
      | file _ => cases free
      | link _ => cases free

theorem Cleared.clearance_eq {locations : List Location}
    (cleared : Cleared mode locations before after) (path : Path) :
    after.clearance path = before.clearance path := by
  unfold clearance
  simp only [checkPath_congr cleared.limits_eq, cleared.workingDirectory_eq,
    passage_eq_of_cleared cleared]

theorem Cleared.isDirectory_of_clearance (level : .up ∉ path.components)
    (cleared : Cleared mode (before.clearance path).1 before after) :
    ∀ location ∈ (after.clearance path).1, after.IsDirectory location := by
  rw [cleared.clearance_eq]
  intro location member
  refine cleared.isDirectory member ?_
  rcases before.clearance_cases level with none | same
  · rw [none] at member
    cases member
  · rw [same] at member
    exact free_of_mem_passage member

theorem Cleared.around (level : .up ∉ path.components)
    (cleared : Cleared mode (before.clearance path).1 before after)
    (clear : (before.clearance path).2 = none) :
    (∀ name ∈ path.names.dropLast, ¬ after.limits.nameBytes < name.length) ∧
      after.IsDirectory (path.names.dropLast.reverse ++ startOf after.workingDirectory path) :=
  around_of_clearance level ((congrArg Prod.snd (cleared.clearance_eq path)).trans clear)
    (cleared.isDirectory_of_clearance level)

/-- What is cleared lies on the way to the end of a path, and is not that end. -/
theorem suffix_of_mem_clearance (level : .up ∉ path.components)
    (member : location ∈ (tree.clearance path).1) :
    location <:+ tree.spot path ∧ location ≠ tree.spot path := by
  rcases tree.clearance_cases level with none | same
  · rw [none] at member
    cases member
  · rw [same] at member
    obtain ⟨front, begins, some', rfl⟩ := exists_front_of_mem_passage member
    obtain ⟨more, whole⟩ := begins.trans (List.dropLast_prefix path.names)
    constructor
    · refine ⟨more.reverse, ?_⟩
      rw [spot, ← whole, List.reverse_append, List.append_assoc]
    · intro equal
      have lengths := congrArg List.length equal
      have shorter := begins.length_le
      have positive := List.length_pos_iff.mpr some'
      rw [spot, List.length_append, List.length_append, List.length_reverse,
        List.length_reverse] at lengths
      rw [List.length_dropLast] at shorter
      omega

/-! ### What a path takes -/

theorem any_isDirectory_of_shape {entry other : Option Entry}
    (same : entry.map Entry.shape = other.map Entry.shape) :
    entry.any Entry.isDirectory = other.any Entry.isDirectory := by
  have shaped (entry : Option Entry) :
      (entry.map Entry.shape).any Entry.isDirectory = entry.any Entry.isDirectory := by
    rcases entry with _ | entry
    · rfl
    · cases entry <;> rfl
  rw [← shaped, same, shaped]

theorem resolveParent_congr (limits : second.limits = first.limits)
    (place : second.workingDirectory = first.workingDirectory) (linkFree : first.LinkFree)
    (level : .up ∉ path.components)
    (alike : AlikeAlong first second (startOf first.workingDirectory path) path.names) :
    second.resolveParent path = first.resolveParent path := by
  have begins := splitLast_begins path.components
  have lower : .up ∉ (splitLast path.components).1 ++ [Component.here] := by
    intro member
    rcases List.mem_append.mp member with inside | here
    · exact level (begins.subset inside)
    · cases List.mem_singleton.mp here
  have names : Path.namesOf ((splitLast path.components).1 ++ [.here]) <+: path.names := by
    rw [Path.namesOf_append]
    change Path.namesOf _ ++ [] <+: _
    rw [List.append_nil]
    exact begins.filterMap _
  unfold resolveParent
  rw [checkPath_congr limits, limits, place]
  simp only
  rw [walk_congr limits linkFree (fun front shorter => alike front (shorter.trans names)) lower]

theorem receives_congr (limits : second.limits = first.limits)
    (place : second.workingDirectory = first.workingDirectory) (linkFree : first.LinkFree)
    (level : .up ∉ path.components)
    (alike : AlikeAlong first second (startOf first.workingDirectory path) path.names) :
    second.receives path = first.receives path := by
  rw [receives, receives, resolveParent_congr limits place linkFree level alike]
  cases resolved : first.resolveParent path with
  | error fault => rfl
  | ok pair =>
      obtain ⟨parent, last⟩ := pair
      cases last with
      | special => rfl
      | named name slash =>
          obtain ⟨-, before, split, left, leads⟩ := resolveParent_eq_ok resolved
          obtain ⟨blanks, divided, -, -⟩ := eq_of_splitLast split
          have lower : .up ∉ before := by
            rw [divided] at level
            exact fun member => level (List.mem_append_left _ member)
          obtain ⟨rfl, -⟩ := leads.reached_eq linkFree lower
          have begins : Path.namesOf before ++ [name] <+: path.names := by
            rw [Path.names, divided, Path.namesOf_append]
            exact (List.prefix_append_right_inj _).mpr (List.prefix_append [name] _)
          have shape := alike _ begins (List.append_ne_nil_of_right_ne_nil _ (List.cons_ne_nil _ _))
          rw [List.reverse_concat] at shape
          have taken := any_isDirectory_of_shape shape
          simp only [bind, Except.bind, limits]
          rw [← List.cons_append, taken]

theorem prefix_dropLast_of_ne {front : List Name} (begins : front <+: names)
    (other : front ≠ names) : front <+: names.dropLast := by
  rcases List.eq_nil_or_concat names with rfl | ⟨before, last, rfl⟩
  · exact absurd (List.prefix_nil.mp begins) other
  · rw [List.concat_eq_append] at begins other ⊢
    rw [List.dropLast_concat]
    exact (List.prefix_concat_iff.mp begins).resolve_left other

theorem alikeAlong_of_around (inside : first.IsDirectory (names.dropLast.reverse ++ start))
    (inside' : second.IsDirectory (names.dropLast.reverse ++ start))
    (same : second.at? (names.reverse ++ start) = first.at? (names.reverse ++ start)) :
    AlikeAlong first second start names := by
  intro front begins _
  by_cases whole : front = names
  · rw [whole, same]
  · obtain ⟨more, divided⟩ := prefix_dropLast_of_ne begins whole
    rw [← divided, List.reverse_append, List.append_assoc] at inside inside'
    obtain ⟨mode, found⟩ := inside.of_append
    obtain ⟨mode', found'⟩ := inside'.of_append
    have there : first.at? (front.reverse ++ start) = some (.directory mode) := found
    have there' : second.at? (front.reverse ++ start) = some (.directory mode') := found'
    rw [there, there']
    rfl

/-- Whether a content can be put at a path by way of a temporary file, if all around the path is
there. -/
def admission (tree : FileTree) (temporary : Name) (path : Path) (content : ByteArray) :
    Except Fault Unit := do
  tree.checkPath (path.withFileName temporary)
  if tree.limits.nameBytes < temporary.length then throw .nameTooLong
  if tree.limits.holds content = false then throw .fileTooLarge
  tree.receives path

theorem admission_congr (limits : second.limits = first.limits)
    (place : second.workingDirectory = first.workingDirectory) (linkFree : first.LinkFree)
    (level : .up ∉ path.components)
    (alike : AlikeAlong first second (startOf first.workingDirectory path) path.names)
    (proper : Path.IsName temporary) (proper' : Path.IsName again) (clean : 0 ∉ temporary)
    (clean' : 0 ∉ again) (same : again.length = temporary.length) (content : ByteArray) :
    second.admission again path content = first.admission temporary path content := by
  rw [admission, admission, checkPath_congr limits, limits, same,
    checkPath_beside proper proper' same clean clean',
    receives_congr limits place linkFree level alike]

theorem result_replaceWhole_of_around {world : World} {content : ByteArray}
    (linkFree : world.tree.LinkFree) (level : .up ∉ path.components)
    (unused : world.tree.IsUnused temporary) (unmentioned : temporary ∉ path.segments)
    (short : ∀ name ∈ path.names.dropLast, ¬ world.tree.limits.nameBytes < name.length)
    (inside : world.tree.IsDirectory
      (path.names.dropLast.reverse ++ startOf world.tree.workingDirectory path)) :
    (Action.runIn world (replaceWhole temporary path content)).1 =
      world.tree.admission temporary path content := by
  obtain ⟨before, divided, names, lower, absolute⟩ := Path.names_withFileName unused.proper level
  have start : startOf world.tree.workingDirectory (path.withFileName temporary) =
      startOf world.tree.workingDirectory path := by
    rw [startOf, startOf, absolute]
  rw [← names] at short inside
  rw [← start] at inside
  have leads := @leads_of_isDirectory _ world.tree.limits.links _ _ lower short inside
  refine result_replaceWhole unused divided leads fun midway written => ?_
  refine receives_congr written.limits_eq written.workingDirectory_eq linkFree level ?_
  intro front begins some'
  have apart : front.reverse ++ startOf world.tree.workingDirectory path ≠
      temporary :: ((Path.namesOf before).reverse ++
        startOf world.tree.workingDirectory (path.withFileName temporary)) := by
    intro same
    have first := congrArg List.head? same
    rw [List.head?_append_of_ne_nil _ (by simpa using some')] at first
    have member := List.mem_reverse.mp (List.mem_of_head? first)
    exact unmentioned (Path.mem_segments_of_names (begins.subset member))
  rw [written.at?_eq, if_neg apart]

/-! ### Trees that let a write take the same course -/

/-- Two trees have the same at the end of a path, and entries that are no directories at the same
places on the way there. Directories are made with the same bits in both. -/
structure SameWay (path : Path) (first second : FileTree) : Prop where
  limits_eq : second.limits = first.limits
  workingDirectory_eq : second.workingDirectory = first.workingDirectory
  isTaken_eq : ∀ location, location <:+ first.spot path →
    second.isTaken location = first.isTaken location
  at?_spot : second.at? (first.spot path) = first.at? (first.spot path)
  groupBit_eq : ∀ location, second.groupBit location = first.groupBit location

theorem SameWay.refl (path : Path) (tree : FileTree) : SameWay path tree tree :=
  ⟨rfl, rfl, fun _ _ => rfl, rfl, fun _ => rfl⟩

theorem SameWay.passage_eq (sameWay : SameWay path first second) (begins : names <+: path.names) :
    second.passage (startOf first.workingDirectory path) names =
      first.passage (startOf first.workingDirectory path) names := by
  refine passage_congr sameWay.limits_eq fun front shorter _ => sameWay.isTaken_eq _ ?_
  obtain ⟨more, whole⟩ := shorter.trans begins
  refine ⟨more.reverse, ?_⟩
  rw [spot, ← whole, List.reverse_append, List.append_assoc]

theorem SameWay.clearance_eq (sameWay : SameWay path first second)
    (level : .up ∉ path.components) : second.clearance path = first.clearance path := by
  unfold clearance
  cases has : path.parent? with
  | none => rfl
  | some parent =>
      simp only
      have begins : parent.names <+: path.names := by
        rw [Path.names_parent? has level]
        exact List.dropLast_prefix _
      rw [checkPath_congr sameWay.limits_eq, sameWay.workingDirectory_eq, startOf_parent? _ has,
        sameWay.passage_eq begins]

theorem SameWay.exists?_eq (sameWay : SameWay path first second) (linkFree : first.LinkFree)
    (linkFree' : second.LinkFree) (level : .up ∉ path.components) :
    second.exists? path = first.exists? path := by
  rw [Bool.eq_iff_iff, exists?_iff_spot linkFree level, exists?_iff_spot linkFree' level,
    checkPath_congr sameWay.limits_eq, sameWay.limits_eq, spot_congr sameWay.workingDirectory_eq,
    sameWay.at?_spot]

end FileTree

/-! ### The course of a write -/

namespace WritePolicy

variable {policy : WritePolicy} {temporary again : Name} {path : Path} {content : String}
  {world : World}

theorem prepareAround_cleared (policy : WritePolicy) (linkFree : world.tree.LinkFree)
    (level : .up ∉ path.components) :
    ∃ next, Action.runIn world (policy.prepareAround path) =
        ((world.tree.clearance path).2.elim (.ok ())
          fun fault => .error (.directoryNotCreated (path.parent?.getD path) fault), next) ∧
      Cleared policy.directoryMode (world.tree.clearance path).1 world.tree next.tree := by
  unfold prepareAround clearance
  cases has : path.parent? with
  | none => exact ⟨world, rfl, .refl _ nofun⟩
  | some parent =>
      simp only [Option.getD_some]
      cases empty : parent.isEmpty with
      | true => exact ⟨world, rfl, .refl _ nofun⟩
      | false =>
          have lower := Path.level_of_parent? has level
          simp only [Bool.false_eq_true, if_false]
          rw [runIn_prepareDirectory]
          cases checked : world.tree.checkPath parent with
          | error fault =>
              obtain ⟨apart, ran⟩ :=
                runIn_makeDirectories_of_unchecked policy.directoryMode empty checked
              rw [apart, ran]
              exact ⟨world, rfl, .refl _ nofun⟩
          | ok _ =>
              simp only
              cases inside : world.tree.isDirectory parent with
              | true =>
                  obtain ⟨short, there⟩ := (isDirectory_iff_spot linkFree lower checked).mp inside
                  obtain ⟨clear, directories⟩ := passage_of_isDirectory short there
                  rw [clear]
                  exact ⟨world, rfl, .refl _ directories⟩
              | false =>
                  obtain ⟨next, ran, cleared⟩ := makeDirectories_cleared policy.directoryMode
                    linkFree lower (Path.endInName_parent? has level) checked (Nat.le_refl _)
                  rw [Path.chain, ran]
                  cases (world.tree.passage (startOf world.tree.workingDirectory parent)
                      parent.names).2 with
                  | none => exact ⟨_, rfl, cleared⟩
                  | some fault => exact ⟨_, rfl, cleared⟩

/-- What a write comes to that is not refused: the directories around its path are made as far as
they can be, and the file is put in place if they all are there and the path admits it. -/
structure TakesCourse (policy : WritePolicy) (temporary : Name) (path : Path) (content : String)
    (before prepared : FileTree) (result : Except Failure Unit) (after : FileTree) : Prop where
  cleared : Cleared policy.directoryMode (before.clearance path).1 before prepared
  result_eq : result = match (before.clearance path).2 with
    | some fault => .error (.directoryNotCreated (path.parent?.getD path) fault)
    | none => (prepared.admission temporary path content.toUTF8).mapError (.notWritten path)
  written : result = .ok () → Written prepared after (before.spot path) content.toUTF8
  unwritten : result ≠ .ok () → Alike prepared after

theorem write_takes_course (policy : WritePolicy) (content : String)
    (linkFree : world.tree.LinkFree) (level : .up ∉ path.components)
    (unused : world.tree.IsUnused temporary) (unmentioned : temporary ∉ path.segments)
    (allowed : (!policy.mayReplace && world.tree.exists? path) = false) :
    ∃ prepared, policy.TakesCourse temporary path content world.tree prepared
      (Action.runIn world (policy.write temporary path content)).1
      (Action.runIn world (policy.write temporary path content)).2.tree := by
  obtain ⟨prepared, ran, cleared⟩ := prepareAround_cleared policy linkFree level
  have grown := (prepareAround_grown policy path world).1
  rw [ran] at grown
  have still := unused.grown grown unmentioned
  refine ⟨prepared.tree, ?_⟩
  rw [runIn_write, allowed, if_neg (by decide), ran]
  cases blocked : (world.tree.clearance path).2 with
  | some fault =>
      exact ⟨cleared, by rw [blocked]; rfl, nofun, fun _ => Alike.refl _⟩
  | none =>
      have here := cleared.linkFree linkFree
      obtain ⟨short, inside⟩ := cleared.around level blocked
      have admitted := @result_replaceWhole_of_around _ _ _ content.toUTF8 here level still
        unmentioned short inside
      simp only [Option.elim]
      rw [runIn_put]
      rcases replaceWhole_cases prepared path content.toUTF8 still with
        ⟨next, replaced, -, name, directory, ends, free, written⟩ | ⟨fault, next, replaced, alike⟩
      · have place := ends.spot_eq here level
        rw [spot_congr cleared.workingDirectory_eq] at place
        rw [replaced] at admitted ⊢
        refine ⟨cleared, ?_, fun _ => place ▸ written, fun failed => absurd rfl failed⟩
        rw [blocked, ← admitted]
        rfl
      · rw [replaced] at admitted ⊢
        refine ⟨cleared, ?_, nofun, fun _ => alike⟩
        rw [blocked, ← admitted]
        rfl

/-- A write comes to the same in trees that let it take the same course, whatever name its temporary
file has. -/
theorem result_write_congr {other : World} (policy : WritePolicy) (content : String)
    (sameWay : SameWay path world.tree other.tree) (linkFree : world.tree.LinkFree)
    (linkFree' : other.tree.LinkFree) (level : .up ∉ path.components)
    (unused : world.tree.IsUnused temporary) (unmentioned : temporary ∉ path.segments)
    (unused' : other.tree.IsUnused again) (unmentioned' : again ∉ path.segments)
    (clean : 0 ∉ temporary) (clean' : 0 ∉ again) (same : again.length = temporary.length) :
    (Action.runIn other (policy.write again path content)).1 =
      (Action.runIn world (policy.write temporary path content)).1 := by
  have seen := sameWay.exists?_eq linkFree linkFree' level
  cases allowed : !policy.mayReplace && world.tree.exists? path with
  | true => rw [runIn_write, runIn_write, seen, allowed, if_pos rfl, if_pos rfl]
  | false =>
      obtain ⟨prepared, course⟩ :=
        write_takes_course policy content linkFree level unused unmentioned allowed
      obtain ⟨prepared', course'⟩ := write_takes_course policy content linkFree' level unused'
        unmentioned' (by rw [seen, allowed])
      have cleared := course.cleared
      have cleared' := course'.cleared
      rw [course.result_eq, course'.result_eq, sameWay.clearance_eq level]
      cases clear : (world.tree.clearance path).2 with
      | some fault => rfl
      | none =>
          have clear' : (other.tree.clearance path).2 = none := by
            rw [sameWay.clearance_eq level, clear]
          -- All around the path is there in both prepared trees, so they look alike along it.
          obtain ⟨-, inside⟩ := cleared.around level clear
          obtain ⟨-, inside'⟩ := cleared'.around level clear'
          have place : prepared'.workingDirectory = prepared.workingDirectory := by
            rw [cleared'.workingDirectory_eq, sameWay.workingDirectory_eq,
              cleared.workingDirectory_eq]
          have limits : prepared'.limits = prepared.limits := by
            rw [cleared'.limits_eq, sameWay.limits_eq, cleared.limits_eq]
          have last : prepared'.at? (world.tree.spot path) = prepared.at? (world.tree.spot path) := by
            have apart : world.tree.spot path ∉ (world.tree.clearance path).1 :=
              fun member => (suffix_of_mem_clearance level member).2 rfl
            rw [cleared'.at?_eq, cleared.at?_eq, sameWay.clearance_eq level, if_neg apart,
              if_neg apart, sameWay.at?_spot]
          rw [place] at inside'
          rw [spot, ← cleared.workingDirectory_eq] at last
          simp only
          rw [admission_congr limits place (cleared.linkFree linkFree) level
            (alikeAlong_of_around inside inside' last) unused.proper unused'.proper clean clean' same]

end WritePolicy

end Scaffold
