import Scaffold.Proofs.Output.Contract
import Scaffold.Proofs.Stub.Compiling
import Scaffold.Recipe

/-! What following a recipe promises.

A recipe reads its stub, fills it in and writes the result. Reading and filling in change no file, so
all that can happen to a tree is what the write at the end does. Main statement: `follow_contract`,
over every policy, request and tree. -/

set_option autoImplicit false

namespace Scaffold

open FileTree

/-! ### Compiling -/

/-- The tokens that a workshop has for every item: those of its project over the defaults. -/
def Workshop.tokens (workshop : Workshop) : Tokens :=
  match workshop.project with
  | some project => workshop.compiler.defaults.overlay project.tokens
  | none => workshop.compiler.defaults

theorem Workshop.runIn_compile (workshop : Workshop) (stub : String) (tokens : Tokens)
    (world : World) :
    ∃ log, Action.runIn world (workshop.compile stub tokens) =
      ((workshop.compiler.directory.text? world.tree stub).map fun text =>
          Template.expand text (workshop.tokens.overlay tokens),
        { world with log := log }) := by
  unfold compile Workshop.tokens
  cases workshop.project with
  | none =>
      obtain ⟨log, ran⟩ := workshop.compiler.runIn_compile stub tokens world
      refine ⟨log, ran.trans ?_⟩
      simp only [Compiler.fill_eq]
  | some project =>
      obtain ⟨log, ran⟩ :=
        workshop.compiler.runIn_compile stub (project.tokens.overlay tokens) world
      refine ⟨log, ran.trans ?_⟩
      simp only [Compiler.fill_overlay, Compiler.layersFor]

namespace Recipe

/-- The tokens that an item is made with, the weakest layer first. -/
def layers (workshop : Workshop) (name : String) (request : Request) : Tokens :=
  (workshop.tokens.overlay (Naming.itemTokens name)).overlay request.tokens

def itemPath (recipe : Recipe) (workshop : Workshop) (name : String) : Path :=
  workshop.basePath.join
    (Path.ofString (Template.expand recipe.pathTemplate (Naming.itemTokens name)))

variable {recipe : Recipe} {workshop : Workshop} {request : Request} {name content : String}
  {temporary : Name} {path : Path} {world next : World}

/-! ### Placing the result -/

def policyFor (workshop : Workshop) (request : Request) : WritePolicy :=
  { workshop.policy with mayReplace := request.force || workshop.policy.mayReplace }

theorem runIn_place (workshop : Workshop) (request : Request) (temporary : Name) (path : Path)
    (content : String) (world : World) :
    Action.runIn world (place workshop request temporary path content) =
      if !request.force && request.keepExisting && world.tree.exists? path then
        (.ok false, { world with log := world.log ++ [.keptFile path] })
      else ((Action.runIn world
            ((policyFor workshop request).write temporary path content)).1.map fun _ => true,
          (Action.runIn world ((policyFor workshop request).write temporary path content)).2) := by
  unfold place policyFor
  cases request.force with
  | true =>
      rw [if_pos rfl, Action.runIn_then_pure]
      rfl
  | false =>
      rw [if_neg (by decide)]
      cases request.keepExisting with
      | true => exact WritePolicy.runIn_writeNew workshop.policy temporary path content world
      | false =>
          rw [if_neg (by decide), Action.runIn_then_pure]
          rfl

theorem runIn_place_of_exists (temporary : Name) (content : String) (world : World)
    (kept : request.force = false)
    (careful : request.keepExisting = true ∨ workshop.policy.mayReplace = false)
    (present : world.tree.exists? path = true) :
    (Action.runIn world (place workshop request temporary path content)).2.tree = world.tree := by
  rw [runIn_place, kept, present]
  cases keeps : request.keepExisting with
  | true => rfl
  | false =>
      have refuses : (policyFor workshop request).mayReplace = false := by
        rcases careful with keep | never
        · rw [keeps] at keep
          cases keep
        · rw [policyFor, kept, never]
          rfl
      rw [if_neg (by decide), WritePolicy.runIn_write, refuses, present]
      rfl

theorem place_cases {result : Except Failure Bool} (world : World) (unused : world.tree.IsUnused temporary)
    (unmentioned : temporary ∉ path.segments)
    (ran : Action.runIn world (place workshop request temporary path content) = (result, next)) :
    (result = .ok true ∧ ∃ prepared destination, (policyFor workshop request).Effect temporary
      path content world.tree prepared next.tree destination) ∨
    (result = .ok false ∧ request.keepExisting = true ∧ request.force = false ∧
      world.tree.exists? path = true ∧ next.tree = world.tree) ∨
    ∃ cause, result = .error cause ∧ (policyFor workshop request).FailsCleanly temporary path
      world.tree cause next.tree := by
  rw [runIn_place] at ran
  split at ran
  next back =>
      right; left
      cases ran
      obtain ⟨asked, present⟩ := Bool.and_eq_true_iff.mp back
      obtain ⟨unforced, keeps⟩ := Bool.and_eq_true_iff.mp asked
      exact ⟨rfl, keeps, Bool.not_inj unforced, present, rfl⟩
  next =>
      rcases written : Action.runIn world
        ((policyFor workshop request).write temporary path content) with ⟨answer, last⟩
      rw [written] at ran
      cases answer with
      | ok value =>
          left
          cases ran
          have outcome :=
            WritePolicy.write_outcome (policyFor workshop request) content unused unmentioned
          rw [written] at outcome
          cases outcome with
          | written _ grown still ends free put =>
              exact ⟨rfl, _, _, .of_written grown still unmentioned ends free put⟩
      | error cause =>
          right; right
          cases ran
          exact ⟨cause, rfl, WritePolicy.write_failsCleanly unused unmentioned written⟩

/-! ### The whole recipe -/

/-- A recipe fails with its stub, or it places what the stub gives. -/
theorem runIn_follow (recipe : Recipe) (workshop : Workshop) (temporary : Name) (name : String)
    (request : Request) (world : World) :
    ∃ log, (∃ cause, workshop.compiler.directory.text? world.tree recipe.stub = .error cause ∧
        Action.runIn world (recipe.follow workshop temporary name request) =
          (.error cause, { world with log := log })) ∨
      ∃ text result next, workshop.compiler.directory.text? world.tree recipe.stub = .ok text ∧
        Action.runIn { world with log := log } (place workshop request temporary
          (recipe.itemPath workshop name) (Template.expand text (layers workshop name request))) =
            (result, next) ∧
        (Action.runIn world (recipe.follow workshop temporary name request)).1 =
          (result.map fun written => if written then [recipe.itemPath workshop name] else []) ∧
        (Action.runIn world (recipe.follow workshop temporary name request)).2.tree = next.tree := by
  obtain ⟨log, compiled⟩ :=
    workshop.runIn_compile recipe.stub (tokensFor name request) world
  refine ⟨log, ?_⟩
  rw [follow, Action.runIn_bind, compiled]
  cases workshop.compiler.directory.text? world.tree recipe.stub with
  | error cause => exact Or.inl ⟨cause, rfl, rfl⟩
  | ok text =>
      right
      have content : Template.expand text (workshop.tokens.overlay (tokensFor name request)) =
          Template.expand text (layers workshop name request) :=
        (Template.expand_congr (Tokens.get?_overlay_assoc _ _ _) text).symm
      have below : workshop.resolve (recipe.outputPath name) = recipe.itemPath workshop name := rfl
      simp only [Except.map, content, below]
      rw [Action.runIn_bind]
      rcases placed : Action.runIn { world with log := log } (place workshop request temporary
        (recipe.itemPath workshop name) (Template.expand text (layers workshop name request)))
        with ⟨result, next⟩
      refine ⟨text, result, next, rfl, placed, ?_⟩
      cases result with
      | error cause => exact ⟨rfl, rfl⟩
      | ok written =>
          cases written with
          | true => exact ⟨rfl, rfl⟩
          | false => exact ⟨rfl, rfl⟩

/-- What following a recipe comes to: the answer and the world after it. -/
structure Contract (recipe : Recipe) (workshop : Workshop) (name : String) (request : Request)
    (temporary : Name) (world : World) (answer : Except Failure (List Path)) (next : World) :
    Prop where
  answers : ∀ paths, answer = .ok paths → paths = [recipe.itemPath workshop name] ∨ paths = []
  /-- A path that is answered has the stub as it was, with all tokens filled in. -/
  made : ∀ path, answer = .ok [path] → path = recipe.itemPath workshop name ∧
    ∃ text prepared destination,
      world.tree.readText (workshop.compiler.directory.stubPath recipe.stub) = .ok text ∧
      (policyFor workshop request).Effect temporary path
        (Template.expand text (layers workshop name request)) world.tree prepared next.tree
        destination ∧
      ((∀ target, world.tree.at? destination ≠ some (.link target)) →
        next.tree.readText path = .ok (Template.expand text (layers workshop name request)))
  skipped : answer = .ok [] → request.keepExisting = true ∧ request.force = false ∧
    world.tree.exists? (recipe.itemPath workshop name) = true ∧ next.tree = world.tree
  /-- A recipe that fails with its stub leaves no trace. -/
  unread : ∀ stub, (answer = .error (.stubNotFound stub) ∨
    ∃ fault, answer = .error (.stubUnreadable stub fault)) → next.tree = world.tree
  kept : ∀ text, world.tree.readText (recipe.itemPath workshop name) = .ok text →
    request.force = false → (request.keepExisting = true ∨ workshop.policy.mayReplace = false) →
      next.tree.readText (recipe.itemPath workshop name) = .ok text

theorem not_stub_of_failsCleanly {policy : WritePolicy} {before after : FileTree} {cause : Failure}
    (clean : policy.FailsCleanly temporary path before cause after) (stub : String) :
    cause ≠ .stubNotFound stub ∧ ∀ fault, cause ≠ .stubUnreadable stub fault := by
  rcases clean.named with rfl | ⟨parent, fault, -, rfl⟩ | ⟨fault, rfl⟩
  all_goals exact ⟨nofun, nofun⟩

theorem Contract.of_same {cause : Failure} (same : next.tree = world.tree) :
    recipe.Contract workshop name request temporary world (.error cause) next where
  answers := nofun
  made := nofun
  skipped := nofun
  unread := fun _ _ => same
  kept := by
    intro text reads _ _
    rw [same, reads]

theorem Contract.of_failed {policy : WritePolicy} {before after : FileTree} {cause : Failure}
    (clean : policy.FailsCleanly temporary path before cause after)
    (kept : ∀ text, world.tree.readText (recipe.itemPath workshop name) = .ok text →
      request.force = false → (request.keepExisting = true ∨ workshop.policy.mayReplace = false) →
        next.tree.readText (recipe.itemPath workshop name) = .ok text) :
    recipe.Contract workshop name request temporary world (.error cause) next where
  answers := nofun
  made := nofun
  skipped := nofun
  unread := by
    intro stub failed
    obtain ⟨found, readable⟩ := not_stub_of_failsCleanly clean stub
    rcases failed with same | ⟨fault, same⟩
    · cases same
      exact absurd rfl found
    · cases same
      exact absurd rfl (readable fault)
  kept := kept

theorem Contract.of_written {text : String} {prepared : FileTree} {destination : Location}
    (stub : world.tree.readText (workshop.compiler.directory.stubPath recipe.stub) = .ok text)
    (effect : (policyFor workshop request).Effect temporary (recipe.itemPath workshop name)
      (Template.expand text (layers workshop name request)) world.tree prepared next.tree destination)
    (kept : ∀ text, world.tree.readText (recipe.itemPath workshop name) = .ok text →
      request.force = false → (request.keepExisting = true ∨ workshop.policy.mayReplace = false) →
        next.tree.readText (recipe.itemPath workshop name) = .ok text) :
    recipe.Contract workshop name request temporary world (.ok [recipe.itemPath workshop name])
      next where
  answers := by
    intro paths same
    cases same
    exact .inl rfl
  made := by
    intro path same
    cases same
    exact ⟨rfl, text, prepared, destination, stub, effect,
      fun plain => readText_of_readBytes (effect.reads plain)⟩
  skipped := nofun
  unread := by
    intro stub failed
    rcases failed with same | ⟨fault, same⟩
    · cases same
    · cases same
  kept := kept

theorem Contract.of_kept (keeps : request.keepExisting = true) (unforced : request.force = false)
    (present : world.tree.exists? (recipe.itemPath workshop name) = true)
    (same : next.tree = world.tree) :
    recipe.Contract workshop name request temporary world (.ok []) next where
  answers := by
    intro paths none
    cases none
    exact .inr rfl
  made := nofun
  skipped := fun _ => ⟨keeps, unforced, present, same⟩
  unread := fun _ _ => same
  kept := by
    intro text reads _ _
    rw [same, reads]

/-- A recipe keeps its contract in every world. -/
theorem follow_contract (recipe : Recipe) (workshop : Workshop) (name : String)
    (request : Request) (unused : world.tree.IsUnused temporary)
    (unmentioned : temporary ∉ (recipe.itemPath workshop name).segments) :
    recipe.Contract workshop name request temporary world
      (Action.runIn world (recipe.follow workshop temporary name request)).1
      (Action.runIn world (recipe.follow workshop temporary name request)).2 := by
  obtain ⟨log, ⟨cause, missing, ran⟩ | ⟨text, result, next, stub, placed, answer, tree⟩⟩ :=
    recipe.runIn_follow workshop temporary name request world
  · rw [ran]
    exact .of_same rfl
  · have kept : ∀ earlier, world.tree.readText (recipe.itemPath workshop name) = .ok earlier →
        request.force = false →
        (request.keepExisting = true ∨ workshop.policy.mayReplace = false) →
        (Action.runIn world (recipe.follow workshop temporary name request)).2.tree.readText
          (recipe.itemPath workshop name) = .ok earlier := by
      intro earlier reads unforced careful
      have same := runIn_place_of_exists temporary
        (Template.expand text (layers workshop name request)) { world with log := log } unforced
        careful (exists?_of_readText reads)
      rw [placed] at same
      rw [tree, same]
      exact reads
    rw [answer]
    rcases place_cases { world with log := log } unused unmentioned placed with
      ⟨rfl, prepared, destination, effect⟩ | ⟨rfl, keeps, unforced, present, same⟩ |
        ⟨cause, rfl, clean⟩
    · rw [← tree] at effect
      exact .of_written (StubDirectory.readText_of_text? stub) effect kept
    · exact .of_kept keeps unforced present (tree.trans same)
    · exact .of_failed clean kept

def stubWorld : World :=
  World.ofTree ((FileTree.fresh.place [Text.encode "s", Text.encode "w"] (.directory 0o755)).place
    [Text.encode "c.stub", Text.encode "s", Text.encode "w"]
    (.file "\x7b\x7bname\x7d\x7d \x7b\x7bslug\x7d\x7d \x7b\x7bauthor\x7d\x7d".toUTF8))

/-- A workshop whose project and defaults bind one name each that the other layers bind too. -/
def stubWorkshop : Workshop where
  compiler := ⟨⟨Path.ofString "s"⟩, .ofList [("author", "A"), ("slug", "none")]⟩
  policy := {}
  basePath := Path.ofString "out"
  project := some ⟨"my-plugin", "my_", "my", "My"⟩

def stubRecipe : Recipe := ⟨"c", "\x7b\x7bsnake\x7d\x7d.x"⟩

def stubRequest : Request := { tokens := .ofList [("name", "N")] }

theorem follow_contract_on_stub :
    stubWorld.tree.IsUnused (Text.encode ".tmp-0") ∧
      Text.encode ".tmp-0" ∉ (stubRecipe.itemPath stubWorkshop "UserPage").segments ∧
      ∃ next, Action.runIn stubWorld (stubRecipe.follow stubWorkshop (Text.encode ".tmp-0")
          "UserPage" stubRequest) = (.ok [Path.ofString "out/user_page.x"], next) ∧
        next.tree.readText (Path.ofString "out/user_page.x") = .ok "N my-plugin A" ∧
        stubRecipe.Contract stubWorkshop "UserPage" stubRequest (Text.encode ".tmp-0") stubWorld
          (.ok [Path.ofString "out/user_page.x"]) next := by
  have unused : stubWorld.tree.IsUnused (Text.encode ".tmp-0") :=
    isUnused_of_not_mem_usedNames ⟨by decide, by decide⟩ (by decide +kernel)
  have unmentioned :
      Text.encode ".tmp-0" ∉ (stubRecipe.itemPath stubWorkshop "UserPage").segments := by
    decide +kernel
  have made : (Action.runIn stubWorld (stubRecipe.follow stubWorkshop (Text.encode ".tmp-0")
      "UserPage" stubRequest)).1 = .ok [Path.ofString "out/user_page.x"] := by
    decide +kernel
  have reads : (Action.runIn stubWorld (stubRecipe.follow stubWorkshop (Text.encode ".tmp-0")
      "UserPage" stubRequest)).2.tree.readText (Path.ofString "out/user_page.x") =
        .ok "N my-plugin A" := by
    decide +kernel
  have contract := follow_contract stubRecipe stubWorkshop "UserPage" stubRequest unused unmentioned
  rcases ran : Action.runIn stubWorld (stubRecipe.follow stubWorkshop (Text.encode ".tmp-0")
    "UserPage" stubRequest) with ⟨answer, next⟩
  rw [ran] at made reads contract
  cases made
  exact ⟨unused, unmentioned, next, rfl, reads, contract⟩

end Recipe

end Scaffold
