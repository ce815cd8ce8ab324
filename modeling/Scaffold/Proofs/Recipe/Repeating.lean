import Scaffold.Proofs.FileTree.Passing
import Scaffold.Proofs.FileTree.Receiving
import Scaffold.Proofs.Recipe.Following

/-! Following a recipe again.

After a write that succeeded the path ends at the file that was put there, if it can be read at all,
though directories were made around it and links may have led elsewhere before. Then a write of the
same content puts the same file in the same place. Main statement: `follow_again`. -/

set_option autoImplicit false

namespace Scaffold

open FileTree

variable {policy : WritePolicy} {path : Path} {content : String} {temporary again name : Name}
  {directory : Location} {world next : World}

/-! ### Writing the same content again -/

/-- A path ends at a file with the given content, and there is room beside it for a temporary file
with that content and a name as long as the given one. -/
structure FileTree.Settled (tree : FileTree) (temporary : Name) (path : Path) (content : ByteArray)
    (directory : Location) (name : Name) : Prop where
  ends : tree.EndsAt path directory name
  found : tree.at? (name :: directory) = some (.file content)
  room : tree.checkPath (path.withFileName temporary) = .ok ()
  short : ¬ tree.limits.nameBytes < temporary.length
  held : tree.limits.holds content = true

namespace WritePolicy

theorem runIn_prepareAround_of_endsAt (policy : WritePolicy)
    (ends : world.tree.EndsAt path directory name) :
    Action.runIn world (policy.prepareAround path) = (.ok (), world) := by
  obtain ⟨-, parent, has, ⟨empty, -⟩ | ⟨named, mode, found⟩⟩ := ends.find?_parent
  · rw [prepareAround, has]
    simp only
    rw [if_pos empty]
    rfl
  · have inside : world.tree.isDirectory parent = true := isDirectory_iff.mpr ⟨_, _, found⟩
    rw [prepareAround, has]
    simp only
    rw [named, if_neg (by decide), runIn_prepareDirectory, if_pos inside]

theorem room_of_write (unused : world.tree.IsUnused temporary)
    (unmentioned : temporary ∉ path.segments)
    (ran : Action.runIn world (policy.write temporary path content) = (.ok (), next)) :
    next.tree.checkPath (path.withFileName temporary) = .ok () ∧
      ¬ next.tree.limits.nameBytes < temporary.length ∧
      next.tree.limits.holds content.toUTF8 = true := by
  rw [runIn_write] at ran
  split at ran
  · cases ran
  have grown := (prepareAround_grown policy path world).1
  rcases made : Action.runIn world (policy.prepareAround path) with ⟨result, prepared⟩
  rw [made] at ran grown
  cases result with
  | error cause => cases ran
  | ok _ =>
      simp only at ran
      rw [runIn_put] at ran
      have still := unused.grown grown unmentioned
      obtain ⟨steps, took, filling⟩ := replaceWhole_filling prepared path content.toUTF8 still
      rcases replaced : Action.runIn prepared (replaceWhole temporary path content.toUTF8) with
        ⟨answer, last⟩
      rw [replaced] at ran took filling
      cases filling with
      | refused => cases ran
      | abandoned => cases ran
      | put held beside _ _ _ written =>
          cases ran
          rw [← took.tree_eq] at written
          rw [checkPath_congr written.limits_eq, written.limits_eq]
          exact ⟨beside.checked, beside.short, held⟩

theorem settled_of_write {bytes : ByteArray} (unused : world.tree.IsUnused temporary)
    (unmentioned : temporary ∉ path.segments)
    (ran : Action.runIn world (policy.write temporary path content) = (.ok (), next))
    (reads : next.tree.readBytes path = .ok bytes) :
    ∃ directory name, next.tree.Settled temporary path content.toUTF8 directory name := by
  obtain ⟨room, short, held⟩ := room_of_write unused unmentioned ran
  have outcome := write_outcome policy content unused unmentioned
  rw [ran] at outcome
  cases outcome with
  | written _ _ _ ends _ written =>
      exact ⟨_, _, written.endsAt_of_readBytes ends reads, written.at?_self, room, short, held⟩

end WritePolicy

theorem FileTree.Settled.write_again
    (settled : world.tree.Settled temporary path content.toUTF8 directory name)
    (allowed : policy.mayReplace = true) (proper : Path.IsName temporary)
    (unused : world.tree.IsUnused again) (clean : 0 ∉ again)
    (same : again.length = temporary.length) :
    ∃ last, Action.runIn world (policy.write again path content) = (.ok (), last) ∧
      Alike world.tree last.tree := by
  have room : world.tree.checkPath (path.withFileName again) = .ok () := by
    rw [checkPath_beside proper unused.proper same (clean_of_checkPath proper settled.room) clean]
    exact settled.room
  have short : ¬ world.tree.limits.nameBytes < again.length := by
    rw [same]
    exact settled.short
  obtain ⟨last, ran, written⟩ := @replaceWhole_over path name again directory content.toUTF8 world
    unused settled.ends (not_isDirectory_of_leaf settled.found rfl) room short settled.held
  rw [WritePolicy.runIn_write, allowed, Bool.not_true, Bool.false_and, if_neg (by decide),
    WritePolicy.runIn_prepareAround_of_endsAt policy settled.ends]
  simp only
  rw [WritePolicy.runIn_put, ran]
  refine ⟨_, rfl, written.limits_eq, written.workingDirectory_eq, fun location => ?_⟩
  rw [written.at?_eq]
  split
  next here => rw [here, settled.found]
  next => rfl

/-! ### Following the recipe again -/

namespace Recipe

variable {recipe : Recipe} {workshop : Workshop} {item : String} {request later : Request}

theorem layers_congr (workshop : Workshop) (item : String) (same : later.tokens = request.tokens) :
    layers workshop item later = layers workshop item request := by
  rw [layers, layers, same]

theorem place_again (settled : world.tree.Settled temporary path content.toUTF8 directory name)
    (keeps : workshop.policy.mayReplace = false) (proper : Path.IsName temporary)
    (unused : world.tree.IsUnused again) (clean : 0 ∉ again)
    (same : again.length = temporary.length) :
    ∃ last, Action.runIn world (place workshop later again path content) =
        (if later.force then .ok true
          else if later.keepExisting then .ok false
          else .error (.destinationExists path), last) ∧
      Alike world.tree last.tree ∧ (later.force = false → last.tree = world.tree) := by
  have present : world.tree.exists? path = true := by
    rw [exists?, settled.ends.find?_eq settled.found]
    rfl
  rw [runIn_place, present]
  cases forced : later.force with
  | true =>
      have allowed : (policyFor workshop later).mayReplace = true := by
        rw [policyFor, forced]
        rfl
      obtain ⟨last, ran, alike⟩ := settled.write_again allowed proper unused clean same
      rw [ran]
      refine ⟨last, rfl, alike, ?_⟩
      intro unforced
      cases unforced
  | false =>
      cases later.keepExisting with
      | true => exact ⟨_, rfl, Alike.refl _, fun _ => rfl⟩
      | false =>
          have careful : (policyFor workshop later).mayReplace = false := by
            rw [policyFor, forced, keeps]
            rfl
          rw [if_neg (by decide), WritePolicy.runIn_write, careful, present]
          exact ⟨_, rfl, Alike.refl _, fun _ => rfl⟩

/-- A recipe that answers a path has written the content of the item there. -/
theorem exists_write_of_follow
    (made : Action.runIn world (recipe.follow workshop temporary item request) =
      (.ok [path], next)) :
    path = recipe.itemPath workshop item ∧
      ∃ log text written, workshop.compiler.directory.text? world.tree recipe.stub = .ok text ∧
        Action.runIn { world with log := log } ((policyFor workshop request).write temporary path
          (Template.expand text (layers workshop item request))) = (.ok (), written) ∧
        next.tree = written.tree := by
  obtain ⟨log, ⟨cause, missing, ran⟩ | ⟨text, result, last, stub, placed, answer, tree⟩⟩ :=
    recipe.runIn_follow workshop temporary item request world
  · rw [made] at ran
    cases ran
  · rw [made] at answer tree
    rw [runIn_place] at placed
    split at placed
    · cases placed
      cases answer
    · rcases wrote : Action.runIn { world with log := log }
        ((policyFor workshop request).write temporary (recipe.itemPath workshop item)
          (Template.expand text (layers workshop item request))) with ⟨outcome, written⟩
      rw [wrote] at placed
      cases outcome with
      | error cause =>
          cases placed
          cases answer
      | ok _ =>
          cases placed
          cases answer
          exact ⟨rfl, log, text, written, stub, wrote, tree⟩

/-- A file that can be read once a recipe has written it is left as it is by every further call with
the same tokens: with force it is written again with the content that it has, and without force it is
kept or the call is refused. -/
theorem follow_again {bytes : ByteArray} (recipe : Recipe) (workshop : Workshop) (item : String)
    (keeps : workshop.policy.mayReplace = false)
    (unused : world.tree.IsUnused temporary)
    (unmentioned : temporary ∉ (recipe.itemPath workshop item).segments)
    (made : Action.runIn world (recipe.follow workshop temporary item request) =
      (.ok [path], next))
    (reads : next.tree.readBytes path = .ok bytes)
    (stub : workshop.compiler.directory.text? next.tree recipe.stub =
      workshop.compiler.directory.text? world.tree recipe.stub)
    (tokens : later.tokens = request.tokens)
    (unused' : next.tree.IsUnused again) (clean : 0 ∉ again)
    (same : again.length = temporary.length) :
    ∃ last, Action.runIn next (recipe.follow workshop again item later) =
        (if later.force then .ok [path]
          else if later.keepExisting then .ok []
          else .error (.destinationExists path), last) ∧
      Alike next.tree last.tree ∧ (later.force = false → last.tree = next.tree) := by
  -- What the first call left at the path decides what the second one comes to.
  obtain ⟨rfl, log, text, written, found, wrote, tree⟩ := exists_write_of_follow made
  rw [tree] at reads
  obtain ⟨directory, name, settled⟩ := @WritePolicy.settled_of_write _ _ _ _
    { world with log := log } _ _ unused unmentioned wrote reads
  rw [← tree] at settled
  obtain ⟨log', ⟨cause, missing, -⟩ | ⟨text', result, last, stub', placed, answer, after⟩⟩ :=
    recipe.runIn_follow workshop again item later next
  · rw [stub, found] at missing
    cases missing
  · rw [stub, found] at stub'
    cases stub'
    obtain ⟨ended, replaced, alike, untouched⟩ := @place_again _ _ _ _ _ _ { next with log := log' }
      workshop later settled keeps unused.proper unused' clean same
    rw [layers_congr workshop item tokens, replaced] at placed
    cases placed
    refine ⟨_, Prod.ext ?_ rfl, ?_, ?_⟩
    · simp only
      rw [answer]
      cases later.force with
      | true => rfl
      | false => cases later.keepExisting <;> rfl
    · rw [after]
      exact alike
    · intro unforced
      rw [after]
      exact untouched unforced

/-- A recipe whose output path goes through a directory that is made for it and out again. -/
def climbingRecipe : Recipe := ⟨"c", "new/../\x7b\x7bsnake\x7d\x7d.x"⟩

def climbedWorld : World :=
  (Action.runIn stubWorld (climbingRecipe.follow stubWorkshop (Text.encode ".tmp-0") "UserPage"
    stubRequest)).2

theorem follow_again_through_new_directory :
    Action.runIn stubWorld (climbingRecipe.follow stubWorkshop (Text.encode ".tmp-0") "UserPage"
        stubRequest) = (.ok [Path.ofString "out/new/../user_page.x"], climbedWorld) ∧
      climbedWorld.tree.readText (Path.ofString "out/new/../user_page.x") = .ok "N my-plugin A" ∧
      (∃ last, Action.runIn climbedWorld (climbingRecipe.follow stubWorkshop (Text.encode ".tmp-1")
          "UserPage" { stubRequest with force := true }) =
            (.ok [Path.ofString "out/new/../user_page.x"], last) ∧
        Alike climbedWorld.tree last.tree) ∧
      (∃ last, Action.runIn climbedWorld (climbingRecipe.follow stubWorkshop (Text.encode ".tmp-1")
          "UserPage" { stubRequest with keepExisting := true }) = (.ok [], last) ∧
        last.tree = climbedWorld.tree) ∧
      ∃ last, Action.runIn climbedWorld (climbingRecipe.follow stubWorkshop (Text.encode ".tmp-1")
          "UserPage" stubRequest) =
            (.error (.destinationExists (Path.ofString "out/new/../user_page.x")), last) ∧
        last.tree = climbedWorld.tree := by
  have unused : stubWorld.tree.IsUnused (Text.encode ".tmp-0") :=
    isUnused_of_not_mem_usedNames (by decide) (by decide +kernel)
  have unused' : climbedWorld.tree.IsUnused (Text.encode ".tmp-1") :=
    isUnused_of_not_mem_usedNames (by decide) (by decide +kernel)
  have unmentioned :
      Text.encode ".tmp-0" ∉ (climbingRecipe.itemPath stubWorkshop "UserPage").segments := by
    decide +kernel
  have answer : (Action.runIn stubWorld (climbingRecipe.follow stubWorkshop (Text.encode ".tmp-0")
      "UserPage" stubRequest)).1 = .ok [Path.ofString "out/new/../user_page.x"] := by
    decide +kernel
  have made : Action.runIn stubWorld (climbingRecipe.follow stubWorkshop (Text.encode ".tmp-0")
      "UserPage" stubRequest) = (.ok [Path.ofString "out/new/../user_page.x"], climbedWorld) :=
    Prod.ext answer rfl
  have reads : climbedWorld.tree.readBytes (Path.ofString "out/new/../user_page.x") =
      .ok "N my-plugin A".toUTF8 := by
    decide +kernel
  have again (later : Request) (tokens : later.tokens = stubRequest.tokens) :=
    follow_again climbingRecipe stubWorkshop "UserPage" rfl unused unmentioned made reads
      (by decide +kernel) tokens unused' (by decide) (by decide)
  obtain ⟨forced, ran, alike, -⟩ := again { stubRequest with force := true } rfl
  obtain ⟨kept, ran', -, same⟩ := again { stubRequest with keepExisting := true } rfl
  obtain ⟨refused, ran'', -, same'⟩ := again stubRequest rfl
  exact ⟨made, readText_of_readBytes reads, ⟨forced, ran, alike⟩, ⟨kept, ran', same rfl⟩,
    refused, ran'', same' rfl⟩

end Recipe

end Scaffold
