import Scaffold.Proofs.Output.Footprint
import Scaffold.Proofs.Recipe.Following
import Scaffold.Proofs.Stub.Containment

/-! Lookups while files are written.

Calls that write may make directories, fail half-way and put files beside stubs and below them. As
long as none of their paths goes by the place of a stub, no lookup tells a difference: not after one
call (`AnswersAlike.of_confined`), and not after any number of them (`answers_kept_by_calls`). -/

set_option autoImplicit false

namespace Scaffold

open FileTree

/-! ### Calls that write -/

/-- A call that writes a file, as such or by a recipe. -/
inductive FileCall where
  | write (call : WriteCall)
  | follow (recipe : Recipe) (workshop : Workshop) (temporary : Name) (item : String)
    (request : Request)

namespace FileCall

def temporary : FileCall → Name
  | .write call => call.temporary
  | .follow _ _ temporary _ _ => temporary

def path : FileCall → Path
  | .write call => call.path
  | .follow recipe workshop _ item _ => recipe.itemPath workshop item

def next (world : World) : FileCall → World
  | .write call => call.next world
  | .follow recipe workshop temporary item request =>
      (Action.runIn world (recipe.follow workshop temporary item request)).2

def worldAfter (world : World) (calls : List FileCall) : World := calls.foldl next world

structure Fresh (call : FileCall) (tree : FileTree) : Prop where
  unused : tree.IsUnused call.temporary
  unmentioned : call.temporary ∉ call.path.segments

/-- Each call of a run has a fresh name for its temporary file when its turn comes. -/
def FreshRun : World → List FileCall → Prop
  | _, [] => True
  | world, call :: calls => call.Fresh world.tree ∧ FreshRun (call.next world) calls

end FileCall

/-! ### What a call can change -/

variable {world : World} {path : Path} {temporary : Name}

namespace Recipe

theorem place_confined {content : String} (workshop : Workshop) (request : Request)
    (linkFree : world.tree.LinkFree) (level : .up ∉ path.components)
    (unused : world.tree.IsUnused temporary) (unmentioned : temporary ∉ path.segments) :
    Confined path world.tree
      (Action.runIn world (place workshop request temporary path content)).2.tree := by
  rw [runIn_place]
  split
  · exact .refl linkFree path
  · exact (policyFor workshop request).write_confined content linkFree level unused unmentioned

theorem follow_confined {item : String} (recipe : Recipe) (workshop : Workshop) (request : Request)
    (linkFree : world.tree.LinkFree) (level : .up ∉ (recipe.itemPath workshop item).components)
    (unused : world.tree.IsUnused temporary)
    (unmentioned : temporary ∉ (recipe.itemPath workshop item).segments) :
    Confined (recipe.itemPath workshop item) world.tree
      (Action.runIn world (recipe.follow workshop temporary item request)).2.tree := by
  obtain ⟨log, ⟨cause, -, ran⟩ | ⟨text, result, next, -, placed, -, tree⟩⟩ :=
    recipe.runIn_follow workshop temporary item request world
  · rw [ran]
    exact .refl linkFree _
  · have confined := @place_confined { world with log := log } _ _
      (Template.expand text (layers workshop item request)) workshop request linkFree level unused
      unmentioned
    rw [placed] at confined
    rw [tree]
    exact confined

end Recipe

theorem FileCall.next_confined {call : FileCall} (linkFree : world.tree.LinkFree)
    (level : .up ∉ call.path.components) (fresh : call.Fresh world.tree) :
    Confined call.path world.tree (call.next world).tree := by
  cases call with
  | write call => exact WriteCall.next_confined linkFree level fresh.unused fresh.unmentioned
  | follow recipe workshop temporary item request =>
      exact recipe.follow_confined workshop request linkFree level fresh.unused fresh.unmentioned

/-! ### Lookups -/

namespace FileTree

variable {first second : FileTree}

/-- What can be told of a path that never goes up depends on what is at its spot. -/
theorem glance_congr_spot (limits : second.limits = first.limits)
    (place : second.workingDirectory = first.workingDirectory) (linkFree : first.LinkFree)
    (linkFree' : second.LinkFree) (level : .up ∉ path.components)
    (same : second.at? (first.spot path) = first.at? (first.spot path)) :
    second.glance path = first.glance path := by
  have found (location : Location) (entry : Entry) :
      second.find? path = .ok (location, entry) ↔ first.find? path = .ok (location, entry) := by
    rw [find?_eq_ok_iff_spot linkFree level, find?_eq_ok_iff_spot linkFree' level,
      checkPath_congr limits, limits, spot_congr place]
    constructor
    · rintro ⟨checked, short, rfl, present, last⟩
      exact ⟨checked, short, rfl, same.symm.trans present, last⟩
    · rintro ⟨checked, short, rfl, present, last⟩
      exact ⟨checked, short, rfl, same.trans present, last⟩
  have whole : (second.find? path).toOption = (first.find? path).toOption := by
    cases earlier : first.find? path with
    | ok pair => rw [(found _ _).mpr earlier]
    | error fault =>
        cases later : second.find? path with
        | ok pair =>
            rw [(found _ _).mp later] at earlier
            cases earlier
        | error _ => rfl
  rw [glance, glance, whole]

end FileTree

namespace StubDirectory

variable {directory : StubDirectory} {first second third : World} {stub : String}

theorem AnswersAlike.refl (directory : StubDirectory) (world : World) :
    directory.AnswersAlike world world :=
  ⟨rfl, fun _ => rfl, fun _ => rfl⟩

theorem AnswersAlike.trans (front : directory.AnswersAlike first second)
    (back : directory.AnswersAlike second third) : directory.AnswersAlike first third where
  listed := back.listed.trans front.listed
  held := fun name => (back.held name).trans (front.held name)
  read := fun name => (back.read name).trans (front.read name)

theorem spot_stubPath (tree : FileTree) (normal : .up ∉ directory.root.components)
    (level : '/' ∉ stub.toList) :
    tree.spot (directory.stubPath stub) = fileName stub :: tree.spot directory.root ∧
      .up ∉ (directory.stubPath stub).components := by
  have proper := isName_fileName level
  obtain ⟨before, divided, names, lower⟩ := Path.exists_components_join proper normal
  have absolute := @Path.isAbsolute_join directory.root _ proper
  change (directory.stubPath stub).components = _ at divided
  change (directory.stubPath stub).isAbsolute = _ at absolute
  constructor
  · rw [spot, spot, Path.names, divided, Path.namesOf_append, List.reverse_append, names, startOf,
      absolute]
    rfl
  · rw [divided]
    simpa using lower

/-- What is changed along a path that goes by the place of no stub shows in no answer. -/
theorem AnswersAlike.of_confined (linkFree : first.tree.LinkFree)
    (wellNamed : first.tree.WellNamed) (normal : .up ∉ directory.root.components)
    (apart : ∀ stub, ¬ first.tree.Along path (fileName stub :: first.tree.spot directory.root))
    (confined : Confined path first.tree second.tree) : directory.AnswersAlike first second := by
  refine .of_glance wellNamed (confined.wellNamed wellNamed) fun stub plain => ?_
  obtain ⟨place, level⟩ := spot_stubPath first.tree normal plain
  refine glance_congr_spot confined.limits_eq confined.workingDirectory_eq linkFree
    confined.linkFree level ?_
  rw [place]
  exact confined.at?_eq _ (apart stub)

/-- No run of calls changes any answer, if no path that is written or made goes by the place of a
stub. -/
theorem answers_kept_by_calls (directory : StubDirectory) (world : World) (calls : List FileCall)
    (linkFree : world.tree.LinkFree) (wellNamed : world.tree.WellNamed)
    (normal : .up ∉ directory.root.components)
    (level : ∀ call ∈ calls, .up ∉ call.path.components)
    (apart : ∀ call ∈ calls, ∀ stub,
      ¬ world.tree.Along call.path (fileName stub :: world.tree.spot directory.root))
    (fresh : FileCall.FreshRun world calls) :
    directory.AnswersAlike world (FileCall.worldAfter world calls) := by
  -- By induction on the calls: none of them moves the places that the others are said to avoid.
  induction calls generalizing world with
  | nil => exact .refl directory world
  | cons call calls ih =>
      obtain ⟨first, further⟩ := fresh
      rw [List.forall_mem_cons] at level apart
      have confined := FileCall.next_confined linkFree level.1 first
      refine (AnswersAlike.of_confined linkFree wellNamed normal apart.1 confined).trans ?_
      refine ih (call.next world) confined.linkFree (confined.wellNamed wellNamed) level.2 ?_ further
      intro other member stub
      rw [along_congr confined.workingDirectory_eq, spot_congr confined.workingDirectory_eq]
      exact apart.2 other member stub

/-- A path goes by the place of no stub if none of the locations that its names say is one. -/
theorem not_along_of_names {tree : FileTree} {path : Path}
    (apart : ∀ front ∈ path.names.inits,
      (front.reverse ++ startOf tree.workingDirectory path).tail = tree.spot directory.root →
        (Text.encode suffix).isSuffixOf
          ((front.reverse ++ startOf tree.workingDirectory path).headD []) = false)
    (stub : String) : ¬ tree.Along path (fileName stub :: tree.spot directory.root) := by
  intro along
  obtain ⟨front, begins, place⟩ := along.exists_names
  have clear := apart front ((List.mem_inits _ _).mpr begins)
  rw [← place, fileName_eq] at clear
  have ending : (Text.encode suffix).isSuffixOf (Text.encode stub ++ Text.encode suffix) = true :=
    List.isSuffixOf_iff_suffix.mpr (List.suffix_append _ _)
  exact absurd (ending.symm.trans (clear rfl)) nofun

/-- Calls that write beside the stubs of `shelfTree` and below its root, by way of a new directory,
over the hidden file and below it, which is in the way. -/
def shelfCalls : List FileCall :=
  [.write (.ofText false "s/new.txt" "x"), .write (.ofText false "s/sub/b.stub" "x"),
    .write (.ofText true "s/.h" "x"), .write (.ofText false "s/.h/c/d" "x"),
    .follow ⟨"a", "s/\x7b\x7bname\x7d\x7d"⟩ ⟨⟨⟨Path.ofString "s"⟩, ∅⟩, {}, Path.ofString "", none⟩
      (Text.encode ".tmp-0") ".h" { force := true }]

theorem answers_kept_by_shelfCalls :
    shelfTree.LinkFree ∧ FileCall.FreshRun (World.ofTree shelfTree) shelfCalls ∧
      (FileCall.worldAfter (World.ofTree shelfTree) shelfCalls).tree.readText
        (Path.ofString "s/sub/b.stub") = .ok "x" ∧
      AnswersAlike ⟨Path.ofString "s"⟩ (World.ofTree shelfTree)
        (FileCall.worldAfter (World.ofTree shelfTree) shelfCalls) := by
  have linkFree : shelfTree.LinkFree := linkFree_of_entries (by decide +kernel)
  have fresh : FileCall.FreshRun (World.ofTree shelfTree) shelfCalls := by
    refine ⟨?_, ?_, ?_, ?_, ?_, trivial⟩
    all_goals exact ⟨isUnused_of_not_mem_usedNames (by decide) (by decide +kernel), by decide +kernel⟩
  refine ⟨linkFree, fresh, by decide +kernel, ?_⟩
  refine answers_kept_by_calls ⟨Path.ofString "s"⟩ (World.ofTree shelfTree) shelfCalls linkFree
    (by decide +kernel) (by decide) (by decide +kernel) ?_ fresh
  intro call member
  apply not_along_of_names
  revert call
  decide +kernel

end StubDirectory

end Scaffold
