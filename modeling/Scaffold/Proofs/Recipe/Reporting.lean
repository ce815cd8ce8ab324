import Scaffold.Event.Filter
import Scaffold.Proofs.FileTree.Silence
import Scaffold.Proofs.Recipe.Following
import Mathlib.Data.List.Forall2

/-! What the log tells of recipes that are followed.

The steps that change files report nothing, so what a call reports is decided by how it ends.
`Trail` has a constructor for each end, with the answer and all events of the call. Over any number
of calls the log is the trails one after another, and what it says of files that were made or left
alone follows from the answers: `log_tells_of_calls`. -/

set_option autoImplicit false

namespace Scaffold

open FileTree

/-! ### Compiling -/

namespace StubDirectory

/-- What is reported of a name that is refused before its file is looked for. -/
def rejection (name : String) : List Event :=
  if isStubName name then [] else [.rejectedStubName name]

theorem log_read (directory : StubDirectory) (name : String) (world : World) :
    (Action.runIn world (directory.read name)).2.log =
      world.log ++ match directory.text? world.tree name with
        | .ok text => [.loadedStub name (directory.stubPath name) text.utf8ByteSize]
        | .error _ => rejection name := by
  unfold read
  cases proper : isStubName name with
  | true =>
      simp only [if_true]
      rw [Action.runIn_tree_bind, Action.runIn_bind, Action.runIn_ofExcept]
      cases directory.text? world.tree name with
      | ok text => rfl
      | error cause => simp [rejection, proper]
  | false =>
      have refused : directory.text? world.tree name = .error (.stubNotFound name) := by
        rw [text?, proper]
        rfl
      simp only [Bool.false_eq_true, if_false]
      rw [Action.runIn_bind, Action.runIn_report]
      simp only
      rw [Action.runIn_tree_bind, Action.runIn_bind, Action.runIn_ofExcept, refused]
      simp [rejection, proper]

end StubDirectory

namespace Compiler

/-- What is reported while a stub with the given text is read and filled in. -/
def opening (compiler : Compiler) (name : String) (tokens : Tokens) (text : String) : List Event :=
  [.loadedStub name (compiler.directory.stubPath name) text.utf8ByteSize,
    .compiledStub name (compiler.defaults.size + tokens.size)]

theorem log_compile (compiler : Compiler) (name : String) (tokens : Tokens) (world : World) :
    (Action.runIn world (compiler.compile name tokens)).2.log =
      world.log ++ match compiler.directory.text? world.tree name with
        | .ok text => compiler.opening name tokens text
        | .error _ => StubDirectory.rejection name := by
  have before := compiler.directory.log_read name world
  obtain ⟨log, read⟩ := compiler.directory.runIn_read name world
  rw [read] at before
  rw [compile, Action.runIn_bind, read]
  cases found : compiler.directory.text? world.tree name with
  | ok text =>
      rw [found] at before
      simp only at before
      rw [before]
      exact List.append_assoc _ _ _
  | error cause =>
      rw [found] at before
      exact before

end Compiler

def Workshop.overrides (workshop : Workshop) (tokens : Tokens) : Tokens :=
  match workshop.project with
  | some project => project.tokens.overlay tokens
  | none => tokens

theorem Workshop.compile_eq (workshop : Workshop) (stub : String) (tokens : Tokens) :
    workshop.compile stub tokens = workshop.compiler.compile stub (workshop.overrides tokens) := by
  unfold compile overrides
  cases workshop.project with
  | some project => rfl
  | none => rfl

/-! ### Writing -/

namespace WritePolicy

/-- What can be reported before a file is put at a path: that the directory around it was made. -/
def Prepares (policy : WritePolicy) (path : Path) (made : List Event) : Prop :=
  made = [] ∨ ∃ parent, path.parent? = some parent ∧
    made = [.createdDirectory parent policy.directoryMode]

theorem log_prepareAround (policy : WritePolicy) (path : Path) (world : World) :
    ∃ made, policy.Prepares path made ∧
      (Action.runIn world (policy.prepareAround path)).2.log = world.log ++ made := by
  have nothing : ∃ made, policy.Prepares path made ∧ world.log = world.log ++ made :=
    ⟨[], .inl rfl, (List.append_nil _).symm⟩
  unfold prepareAround
  cases has : path.parent? with
  | none => exact nothing
  | some parent =>
      simp only
      cases parent.isEmpty with
      | true => exact nothing
      | false =>
          rw [if_neg (by decide), runIn_prepareDirectory]
          split
          · exact nothing
          · have silent := silent_makeDirectories policy.directoryMode parent.chain world
            rcases ran : Action.runIn world (makeDirectories policy.directoryMode parent.chain) with
              ⟨result, next⟩
            rw [ran] at silent
            cases result with
            | ok _ =>
                refine ⟨[.createdDirectory parent policy.directoryMode],
                  .inr ⟨parent, has, rfl⟩, ?_⟩
                simp only
                rw [silent]
            | error fault => exact ⟨[], .inl rfl, silent.trans (List.append_nil _).symm⟩

theorem log_write (policy : WritePolicy) (temporary : Name) (path : Path) (content : String)
    (world : World) :
    ∃ made, policy.Prepares path made ∧
      (Action.runIn world (policy.write temporary path content)).2.log =
        world.log ++ match (Action.runIn world (policy.write temporary path content)).1 with
          | .ok _ => made ++ [.wroteFile path content.utf8ByteSize]
          | .error _ => made := by
  rw [runIn_write]
  split
  · exact ⟨[], .inl rfl, (List.append_nil _).symm⟩
  · obtain ⟨made, prepares, before⟩ := log_prepareAround policy path world
    refine ⟨made, prepares, ?_⟩
    rcases ran : Action.runIn world (policy.prepareAround path) with ⟨result, prepared⟩
    rw [ran] at before
    cases result with
    | error cause => exact before
    | ok _ =>
        simp only
        rw [runIn_put]
        have silent := silent_replaceWhole temporary path content.toUTF8 prepared
        rcases replaced : Action.runIn prepared (replaceWhole temporary path content.toUTF8) with
          ⟨answer, next⟩
        rw [replaced] at silent
        cases answer with
        | ok _ =>
            simp only
            rw [silent, before, List.append_assoc]
        | error fault => exact silent.trans before

end WritePolicy

namespace Recipe

theorem log_place (workshop : Workshop) (request : Request) (temporary : Name) (path : Path)
    (content : String) (world : World) :
    ∃ made, workshop.policy.Prepares path made ∧
      (Action.runIn world (place workshop request temporary path content)).2.log =
        world.log ++
          match (Action.runIn world (place workshop request temporary path content)).1 with
          | .ok true => made ++ [.wroteFile path content.utf8ByteSize]
          | .ok false => [.keptFile path]
          | .error _ => made := by
  rw [runIn_place]
  split
  · exact ⟨[], .inl rfl, rfl⟩
  · obtain ⟨made, prepares, reported⟩ :=
      (policyFor workshop request).log_write temporary path content world
    refine ⟨made, prepares, ?_⟩
    rcases ran : Action.runIn world ((policyFor workshop request).write temporary path content) with
      ⟨result, next⟩
    rw [ran] at reported
    cases result with
    | ok _ => exact reported
    | error cause => exact reported

end Recipe

/-! ### One call -/

structure RecipeCall where
  recipe : Recipe
  workshop : Workshop
  temporary : Name
  item : String
  request : Request

namespace RecipeCall

def run (call : RecipeCall) (world : World) : Except Failure (List Path) × World :=
  Action.runIn world
    (call.recipe.follow call.workshop call.temporary call.item call.request)

def answer (call : RecipeCall) (world : World) : Except Failure (List Path) := (call.run world).1

def next (world : World) (call : RecipeCall) : World := (call.run world).2

def path (call : RecipeCall) : Path := call.recipe.itemPath call.workshop call.item

def stub? (call : RecipeCall) (tree : FileTree) : Except Failure String :=
  call.workshop.compiler.directory.text? tree call.recipe.stub

def compiled (call : RecipeCall) (text : String) : String :=
  Template.expand text (Recipe.layers call.workshop call.item call.request)

/-- The temporary name of a call occurs neither in a tree nor in the path of the call. -/
structure Fresh (call : RecipeCall) (tree : FileTree) : Prop where
  unused : tree.IsUnused call.temporary
  unmentioned : call.temporary ∉ call.path.segments

/-- The events of a call that gets to its path: its stub is loaded and compiled. -/
def opening (call : RecipeCall) (text : String) : List Event :=
  call.workshop.compiler.opening call.recipe.stub
    (call.workshop.overrides (Recipe.tokensFor call.item call.request)) text

/-- All events of a call on a tree, by its answer. -/
inductive Trail (call : RecipeCall) (tree : FileTree) :
    Except Failure (List Path) → List Event → Prop
  | unread {cause : Failure} : call.stub? tree = .error cause →
      Trail call tree (.error cause) (StubDirectory.rejection call.recipe.stub)
  | unwritten {text : String} {cause : Failure} {made : List Event} :
      call.stub? tree = .ok text → call.workshop.policy.Prepares call.path made →
      Trail call tree (.error cause) (call.opening text ++ made)
  | generated {text : String} {made : List Event} :
      call.stub? tree = .ok text → call.workshop.policy.Prepares call.path made →
      Trail call tree (.ok [call.path]) (call.opening text ++ made ++
        [.wroteFile call.path (call.compiled text).utf8ByteSize,
          .generatedFile call.recipe.stub call.path])
  | skipped {text : String} : call.stub? tree = .ok text →
      Trail call tree (.ok []) (call.opening text ++
        [.keptFile call.path, .skippedFile call.recipe.stub call.path])

theorem exists_trail (call : RecipeCall) (world : World) :
    ∃ events, (next world call).log = world.log ++ events ∧
      call.Trail world.tree (call.answer world) events := by
  obtain ⟨log, compiled⟩ := call.workshop.runIn_compile call.recipe.stub
    (Recipe.tokensFor call.item call.request) world
  have before := call.workshop.compiler.log_compile call.recipe.stub
    (call.workshop.overrides (Recipe.tokensFor call.item call.request)) world
  rw [← Workshop.compile_eq, compiled] at before
  rw [next, answer, run, Recipe.follow, Action.runIn_bind, compiled]
  cases found : call.workshop.compiler.directory.text? world.tree call.recipe.stub with
  | error cause =>
      rw [found] at before
      exact ⟨_, before, .unread found⟩
  | ok text =>
      rw [found] at before
      have opened : log = world.log ++ call.opening text := before
      have content : Template.expand text (call.workshop.tokens.overlay
          (Recipe.tokensFor call.item call.request)) = call.compiled text :=
        (Template.expand_congr (Tokens.get?_overlay_assoc _ _ _) text).symm
      have below : call.workshop.resolve (call.recipe.outputPath call.item) = call.path := rfl
      simp only [Except.map, content, below]
      obtain ⟨made, prepares, reported⟩ := Recipe.log_place call.workshop call.request
        call.temporary call.path (call.compiled text) { world with log := log }
      rw [Action.runIn_bind]
      rcases placed : Action.runIn { world with log := log } (Recipe.place call.workshop
        call.request call.temporary call.path (call.compiled text)) with ⟨result, last⟩
      rw [placed] at reported
      simp only [opened] at reported
      cases result with
      | error cause =>
          exact ⟨_, reported.trans (List.append_assoc _ _ _), .unwritten found prepares⟩
      | ok written =>
          cases written with
          | true =>
              refine ⟨_, ?_, .generated found prepares⟩
              simp only [if_true]
              rw [Action.runIn_bind, Action.runIn_report]
              simp only [Action.runIn_pure, reported, List.append_assoc]
              rfl
          | false =>
              refine ⟨_, ?_, .skipped found⟩
              simp only [Bool.false_eq_true, if_false]
              rw [Action.runIn_bind, Action.runIn_report]
              simp only [Action.runIn_pure, reported, List.append_assoc]
              rfl

theorem effect_of_answer {call : RecipeCall} {world : World} {path : Path}
    (answered : call.answer world = .ok [path]) :
    ∃ text, call.stub? world.tree = .ok text ∧
      (call.Fresh world.tree → ∃ prepared destination,
        (Recipe.policyFor call.workshop call.request).Effect call.temporary path
          (call.compiled text) world.tree prepared (next world call).tree destination) := by
  obtain ⟨log, ⟨cause, -, ran⟩ | ⟨text, result, last, found, placed, same, tree⟩⟩ :=
    call.recipe.runIn_follow call.workshop call.temporary call.item call.request world
  · rw [answer, run, ran] at answered
    cases answered
  · refine ⟨text, found, ?_⟩
    rintro ⟨unused, unmentioned⟩
    have ended : (result.map fun written => if written then [call.path] else []) = .ok [path] :=
      same.symm.trans answered
    rw [next, run, tree]
    rcases Recipe.place_cases { world with log := log } unused unmentioned placed with
      ⟨rfl, prepared, destination, effect⟩ | ⟨rfl, -⟩ | ⟨cause, rfl, -⟩
    · cases ended
      exact ⟨prepared, destination, effect⟩
    · cases ended
    · cases ended

/-! ### Runs of calls -/

def worldAfter (world : World) (calls : List RecipeCall) : World := calls.foldl next world

/-- The calls of a run, each with the world that it is made in. -/
def history : World → List RecipeCall → List (World × RecipeCall)
  | _, [] => []
  | world, call :: calls => (world, call) :: history (next world call) calls

/-- What is announced of a call: a file was made or left alone. A call that fails is not
announced. -/
def announcement : World × RecipeCall → Option Event
  | (world, call) =>
    match call.answer world with
    | .ok (path :: _) => some (.generatedFile call.recipe.stub path)
    | .ok [] => some (.skippedFile call.recipe.stub call.path)
    | .error _ => none

/-- What acknowledges the file of a call, with the length of what the stub was compiled to. -/
def acknowledgement : World × RecipeCall → Option Event
  | (world, call) =>
    match call.answer world, call.stub? world.tree with
    | .ok (path :: _), .ok text => some (.wroteFile path (call.compiled text).utf8ByteSize)
    | _, _ => none

def announces : Event → Bool
  | .generatedFile _ _ => true
  | .skippedFile _ _ => true
  | _ => false

def acknowledges : Event → Bool
  | .wroteFile _ _ => true
  | _ => false

theorem announces_eq (event : Event) : announces event = decide (event.severity = .info) := by
  cases event with
  | _ => rfl

theorem acknowledges_eq (event : Event) :
    acknowledges event = decide (event.severity = .debug ∧ event.message = "Wrote file") := by
  cases event with
  | _ => simp [acknowledges, Event.severity, Event.message]

theorem filter_made {policy : WritePolicy} {path : Path} {made : List Event}
    {shows : Event → Bool} (hides : ∀ parent mode, shows (.createdDirectory parent mode) = false)
    (prepares : policy.Prepares path made) : made.filter shows = [] := by
  rcases prepares with rfl | ⟨parent, -, rfl⟩
  · rfl
  · rw [List.filter_singleton, hides, cond_false]

theorem Trail.filter_announces {call : RecipeCall} {world : World} {events : List Event}
    (trail : call.Trail world.tree (call.answer world) events) :
    events.filter announces = (announcement (world, call)).toList := by
  rw [announcement]
  generalize call.answer world = answer at trail
  cases trail with
  | unread failed =>
      rw [StubDirectory.rejection]
      split <;> rfl
  | unwritten found prepares =>
      rw [List.filter_append, filter_made (fun _ _ => rfl) prepares]
      rfl
  | generated found prepares =>
      rw [List.filter_append, List.filter_append, filter_made (fun _ _ => rfl) prepares]
      rfl
  | skipped found => rfl

theorem Trail.filter_acknowledges {call : RecipeCall} {world : World} {events : List Event}
    (trail : call.Trail world.tree (call.answer world) events) :
    events.filter acknowledges = (acknowledgement (world, call)).toList := by
  rw [acknowledgement]
  generalize call.answer world = answer at trail
  cases trail with
  | unread failed =>
      rw [StubDirectory.rejection]
      split <;> rfl
  | unwritten found prepares =>
      rw [List.filter_append, filter_made (fun _ _ => rfl) prepares]
      rfl
  | generated found prepares =>
      rw [List.filter_append, List.filter_append, filter_made (fun _ _ => rfl) prepares, found]
      rfl
  | skipped found => rfl

/-- What the trails of a run show together is what each call shows, in the order of the calls. -/
theorem filter_flatten_trails {shows : Event → Bool} {said : World × RecipeCall → Option Event}
    {entries : List (World × RecipeCall)} {trails : List (List Event)}
    (each : ∀ (call : RecipeCall) (world : World) (events : List Event),
      call.Trail world.tree (call.answer world) events →
        events.filter shows = (said (world, call)).toList)
    (told : List.Forall₂
      (fun entry events => entry.2.Trail entry.1.tree (entry.2.answer entry.1) events)
      entries trails) :
    trails.flatten.filter shows = entries.filterMap said := by
  induction told with
  | nil => rfl
  | @cons entry events entries trails trail told ih =>
      rw [List.flatten_cons, List.filter_append, each entry.2 entry.1 events trail, ih,
        List.filterMap_cons]
      cases said entry with
      | none => rfl
      | some event => rfl

theorem exists_trails (world : World) (calls : List RecipeCall) :
    ∃ trails : List (List Event), (worldAfter world calls).log = world.log ++ trails.flatten ∧
      List.Forall₂
        (fun entry events => entry.2.Trail entry.1.tree (entry.2.answer entry.1) events)
        (history world calls) trails := by
  induction calls generalizing world with
  | nil => exact ⟨[], (List.append_nil _).symm, .nil⟩
  | cons call calls ih =>
      obtain ⟨events, added, trail⟩ := call.exists_trail world
      obtain ⟨trails, later, told⟩ := ih (next world call)
      refine ⟨events :: trails, ?_, .cons trail told⟩
      rw [added, List.append_assoc] at later
      exact later

/-- The log of a run of calls, shown in full. Each call adds its trail. The announcements are, in
order, one for each call that succeeds; the acknowledgements one for each call that answers a path,
with the length of the content that was put there. -/
theorem log_tells_of_calls (filter : Filter) (all : ∀ event, filter.admits event = true)
    (world : World) (calls : List RecipeCall) :
    ∃ trails : List (List Event),
      (worldAfter world calls).log = world.log ++ trails.flatten ∧
      List.Forall₂
        (fun entry events => entry.2.Trail entry.1.tree (entry.2.answer entry.1) events)
        (history world calls) trails ∧
      ((trails.flatten.filter filter.admits).filter fun event => event.severity = .info) =
        (history world calls).filterMap announcement ∧
      ((trails.flatten.filter filter.admits).filter fun event =>
          event.severity = .debug ∧ event.message = "Wrote file") =
        (history world calls).filterMap acknowledgement ∧
      ∀ entry ∈ history world calls, ∀ path, entry.2.answer entry.1 = .ok [path] →
        ∃ text, entry.2.stub? entry.1.tree = .ok text ∧
          (entry.2.Fresh entry.1.tree → ∃ prepared destination,
            (Recipe.policyFor entry.2.workshop entry.2.request).Effect entry.2.temporary path
              (entry.2.compiled text) entry.1.tree prepared (next entry.1 entry.2).tree
              destination) := by
  obtain ⟨trails, added, told⟩ := exists_trails world calls
  have shown : trails.flatten.filter filter.admits = trails.flatten :=
    List.filter_eq_self.mpr fun event _ => all event
  refine ⟨trails, added, told, ?_, ?_, fun entry _ path answered => effect_of_answer answered⟩
  · simp only [shown, ← announces_eq]
    exact filter_flatten_trails (fun _ _ _ => Trail.filter_announces) told
  · simp only [shown, ← acknowledges_eq]
    exact filter_flatten_trails (fun _ _ _ => Trail.filter_acknowledges) told

theorem admits_fromSeverity_debug (event : Event) :
    (Filter.fromSeverity .debug).admits event = true := by
  cases event with
  | _ => rfl

/-- A call for one item, as a request and a stub make it. -/
def pageCall (stub : String) (request : Request) : RecipeCall where
  recipe := { Recipe.stubRecipe with stub }
  workshop := Recipe.stubWorkshop
  temporary := Text.encode ".tmp-0"
  item := "UserPage"
  request := request

/-- A file is made, refused, left alone and made again, with a missing stub in between. -/
def pageCalls : List RecipeCall :=
  [pageCall "c" {}, pageCall "c" {}, pageCall "missing" {}, pageCall "c" { keepExisting := true },
    pageCall "c" { force := true }]

theorem log_tells_of_pageCalls :
    (∀ event, (Filter.fromSeverity .debug).admits event = true) ∧
      ∃ trails : List (List Event),
        (worldAfter Recipe.stubWorld pageCalls).log = trails.flatten ∧
        ((trails.flatten.filter (Filter.fromSeverity .debug).admits).filter fun event =>
            event.severity = .info) =
          [.generatedFile "c" (Path.ofString "out/user_page.x"),
            .skippedFile "c" (Path.ofString "out/user_page.x"),
            .generatedFile "c" (Path.ofString "out/user_page.x")] ∧
        ((trails.flatten.filter (Filter.fromSeverity .debug).admits).filter fun event =>
            event.severity = .debug ∧ event.message = "Wrote file") =
          [.wroteFile (Path.ofString "out/user_page.x") 20,
            .wroteFile (Path.ofString "out/user_page.x") 20] := by
  obtain ⟨trails, added, -, announced, acknowledged, -⟩ := log_tells_of_calls
    (Filter.fromSeverity .debug) admits_fromSeverity_debug Recipe.stubWorld pageCalls
  refine ⟨admits_fromSeverity_debug, trails, added, announced.trans ?_, acknowledged.trans ?_⟩
  · decide +kernel
  · decide +kernel

end RecipeCall

end Scaffold
