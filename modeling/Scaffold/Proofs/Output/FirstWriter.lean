import Scaffold.Proofs.FileTree.Passing
import Scaffold.Proofs.Output.Contract

/-! Runs of writes that may not replace anything.

Such a write makes directories where nothing is, and then puts its file where nothing is or in place
of a link that leads nowhere. No resolution that ended anywhere passes these places, so every path
still leads to what it led to (`WriteCall.find?_next`), and a run of calls keeps every text once it
can be read (`first_writer_wins`). -/

set_option autoImplicit false

namespace Scaffold

open FileTree

structure WriteCall where
  policy : WritePolicy
  /-- Whether the call leaves a file that is there without failing. -/
  onlyNew : Bool
  temporary : Name
  path : Path
  content : String

namespace WriteCall

def action (call : WriteCall) : Action Failure Bool :=
  if call.onlyNew then call.policy.writeNew call.temporary call.path call.content
  else do
    call.policy.write call.temporary call.path call.content
    return true

def result (call : WriteCall) (world : World) : Except Failure Bool :=
  (Action.runIn world call.action).1

def next (call : WriteCall) (world : World) : World := (Action.runIn world call.action).2

def worldAfter (world : World) (calls : List WriteCall) : World :=
  calls.foldl (fun between call => call.next between) world

/-- What a call keeps to in a tree: it may not replace anything, goes down only, and has a name of its
own for the temporary file. Links are followed as far as they lead. -/
structure Careful (call : WriteCall) (tree : FileTree) : Prop where
  keeps : call.policy.mayReplace = false
  level : .up ∉ call.path.components
  unused : tree.IsUnused call.temporary
  unmentioned : call.temporary ∉ call.path.segments
  cyclic : tree.GivesUpOnCycles call.path

/-- Each call of a run is careful when its turn comes. -/
def CarefulRun (world : World) (calls : List WriteCall) : Prop :=
  ∀ earlier call, earlier ++ [call] <+: calls → call.Careful (worldAfter world earlier).tree

variable {call : WriteCall} {calls : List WriteCall} {world next : World} {path : Path}
  {location : Location} {entry : Entry}

/-! ### One write -/

theorem find?_of_written {prepared : World} {directory : Location} {name : Name}
    (careful : call.Careful world.tree) (unseen : world.tree.exists? call.path = false)
    (prepares : Action.runIn world (call.policy.prepareAround call.path) = (.ok (), prepared))
    (grown : Grown call.policy.directoryMode (·.Around call.path) world.tree prepared.tree)
    (ends : prepared.tree.EndsAt call.path directory name)
    (free : ¬ prepared.tree.IsDirectory (name :: directory))
    (written : Written prepared.tree next.tree (name :: directory) call.content.toUTF8) :
    (∀ path location entry, world.tree.find? path = .ok (location, entry) →
        next.tree.find? path = .ok (location, entry)) ∧
      next.tree.EndsAt call.path directory name := by
  cases there : prepared.tree.at? (name :: directory) with
  | none =>
      constructor
      · intro path location entry found
        exact find?_mono written.limits_eq written.workingDirectory_eq
          (fun _ _ => written.kept_of_missing there) (grown.find?_mono found)
      · exact ends.mono written.limits_eq written.workingDirectory_eq
          fun _ _ _ => written.kept_of_missing there
  | some present =>
      have earlier := (grown.at?_eq_of_free free).symm.trans there
      have same := (WritePolicy.prepared_eq_or_goes_up prepares ends earlier).resolve_right
        fun up => careful.level up.1
      rw [same] at there ends free written
      -- Nothing was found at the path, so what stands there is a link that leads nowhere.
      obtain ⟨target, rfl⟩ := ends.exists_target free unseen there
      have nowhere := ends.leads_nowhere careful.cyclic unseen there
      constructor
      · intro path location entry found
        exact (written.find?_or_target there found).resolve_right nowhere
      · apply (written.endsAt_or_target there ends).resolve_right
        rintro ⟨links, reached, walked, -⟩
        exact nowhere ⟨links, reached, walked⟩

/-- After a write that may not replace anything every path leads where it led, and the path that was
written to reads as the content. -/
theorem find?_of_write {result : Except Failure Unit} (careful : call.Careful world.tree)
    (ran : Action.runIn world (call.policy.write call.temporary call.path call.content) =
      (result, next)) :
    (∀ path location entry, world.tree.find? path = .ok (location, entry) →
        next.tree.find? path = .ok (location, entry)) ∧
      (result = .ok () → next.tree.readText call.path = .ok call.content) := by
  have outcome := WritePolicy.write_outcome call.policy call.content careful.unused
    careful.unmentioned
  rw [ran] at outcome
  cases outcome with
  | refused _ _ => exact ⟨fun _ _ _ found => found, nofun⟩
  | stopped _ grown => exact ⟨fun _ _ _ => grown.find?_mono, nofun⟩
  | unwritten _ grown alike => exact ⟨fun _ _ _ => (grown.alike alike).find?_mono, nofun⟩
  | written prepares grown _ ends free written =>
      have unseen : world.tree.exists? call.path = false := by
        rw [← Bool.not_eq_true]
        intro seen
        rw [WritePolicy.runIn_write, careful.keeps, seen] at ran
        cases ran
      obtain ⟨kept, still⟩ := find?_of_written careful unseen prepares grown ends free written
      exact ⟨kept, fun _ => readText_of_find? (still.find?_eq written.at?_self)⟩

/-! ### One call -/

theorem runIn_action (call : WriteCall) (world : World) :
    Action.runIn world call.action =
      if call.onlyNew && world.tree.exists? call.path then
        (.ok false, { world with log := world.log ++ [.keptFile call.path] })
      else
        ((Action.runIn world
            (call.policy.write call.temporary call.path call.content)).1.map fun _ => true,
          (Action.runIn world (call.policy.write call.temporary call.path call.content)).2) := by
  unfold action
  cases call.onlyNew with
  | true =>
      rw [if_pos rfl, Bool.true_and]
      exact WritePolicy.runIn_writeNew _ _ _ _ _
  | false =>
      rw [if_neg (by decide), Bool.false_and, if_neg (by decide)]
      exact Action.runIn_then_pure _ _ _

theorem Careful.find?_next (careful : call.Careful world.tree)
    (found : world.tree.find? path = .ok (location, entry)) :
    (call.next world).tree.find? path = .ok (location, entry) := by
  rw [next, runIn_action]
  split
  · exact found
  · exact (find?_of_write careful rfl).1 _ _ _ found

theorem Careful.readText_next {text : String} (careful : call.Careful world.tree)
    (reads : world.tree.readText path = .ok text) :
    (call.next world).tree.readText path = .ok text :=
  readText_of_kept (fun _ _ => careful.find?_next) reads

theorem Careful.readText_of_ok (careful : call.Careful world.tree)
    (done : call.result world = .ok true) :
    (call.next world).tree.readText call.path = .ok call.content := by
  rw [result, runIn_action] at done
  rw [next, runIn_action]
  split at done
  · cases done
  next fresh =>
      rw [if_neg fresh]
      rcases ran : Action.runIn world (call.policy.write call.temporary call.path call.content) with
        ⟨result, last⟩
      rw [ran] at done
      cases result with
      | error cause => cases done
      | ok _ => exact (find?_of_write careful ran).2 rfl

/-! ### Runs -/

theorem carefulRun_nil (world : World) : CarefulRun world [] := by
  intro earlier call begins
  cases List.append_eq_nil_iff.mp (List.prefix_nil.mp begins) |>.2

theorem carefulRun_cons :
    CarefulRun world (call :: calls) ↔
      call.Careful world.tree ∧ CarefulRun (call.next world) calls := by
  constructor
  · intro careful
    constructor
    · exact careful [] call (List.cons_prefix_cons.mpr ⟨rfl, List.nil_prefix⟩)
    · intro earlier other begins
      exact careful (call :: earlier) other (List.cons_prefix_cons.mpr ⟨rfl, begins⟩)
  · rintro ⟨first, careful⟩ earlier other begins
    cases earlier with
    | nil =>
        obtain ⟨rfl, -⟩ := List.cons_prefix_cons.mp begins
        exact first
    | cons head earlier =>
        obtain ⟨rfl, shorter⟩ := List.cons_prefix_cons.mp begins
        exact careful earlier other shorter

theorem worldAfter_append (world : World) (calls further : List WriteCall) :
    worldAfter world (calls ++ further) = worldAfter (worldAfter world calls) further :=
  List.foldl_append

theorem CarefulRun.of_prefix {further : List WriteCall} (careful : CarefulRun world calls)
    (begins : further <+: calls) : CarefulRun world further :=
  fun earlier call shorter => careful earlier call (shorter.trans begins)

theorem CarefulRun.of_append {further : List WriteCall}
    (careful : CarefulRun world (calls ++ further)) :
    CarefulRun (worldAfter world calls) further := by
  intro earlier call begins
  rw [← worldAfter_append]
  apply careful
  rw [List.append_assoc]
  exact (List.prefix_append_right_inj calls).mpr begins

theorem CarefulRun.readText_worldAfter {text : String} (careful : CarefulRun world calls)
    (reads : world.tree.readText path = .ok text) :
    (worldAfter world calls).tree.readText path = .ok text := by
  induction calls generalizing world with
  | nil => exact reads
  | cons call calls ih =>
      obtain ⟨first, further⟩ := carefulRun_cons.mp careful
      exact ih further (first.readText_next reads)

/-- In a run of calls that may not replace anything, a text that a path reads as at one point is what
it reads as at every later one, and so is the content of each call that wrote its file. -/
theorem first_writer_wins (world : World) (calls : List WriteCall)
    (careful : CarefulRun world calls) :
    (∀ earlier further, earlier ++ further <+: calls → ∀ path text,
        (worldAfter world earlier).tree.readText path = .ok text →
          (worldAfter world (earlier ++ further)).tree.readText path = .ok text) ∧
      ∀ earlier call further, earlier ++ call :: further <+: calls →
        call.result (worldAfter world earlier) = .ok true →
          (worldAfter world (earlier ++ call :: further)).tree.readText call.path =
            .ok call.content := by
  constructor
  · intro earlier further begins path text reads
    rw [worldAfter_append]
    exact (careful.of_prefix begins).of_append.readText_worldAfter reads
  · intro earlier call further begins done
    rw [worldAfter_append]
    obtain ⟨first, onward⟩ := carefulRun_cons.mp (careful.of_prefix begins).of_append
    exact onward.readText_worldAfter (first.readText_of_ok done)

theorem Careful.of_resolved {tree : FileTree} (keeps : call.policy.mayReplace = false)
    (level : .up ∉ call.path.components) (proper : Path.IsName call.temporary)
    (unused : call.temporary ∉ tree.usedNames) (unmentioned : call.temporary ∉ call.path.segments)
    (ended : tree.resolve .inspect call.path ≠ .error .tooManyLinks) : call.Careful tree :=
  ⟨keeps, level, isUnused_of_not_mem_usedNames proper unused, unmentioned,
    fun stuck => absurd stuck ended⟩

/-- A working directory with a file `f`, a link `k` to it and a link `l` to `m/x`, which is missing. -/
def tangledWorld : World :=
  World.ofTree (((FileTree.fresh.place [Text.encode "f", Text.encode "w"] (.file "old".toUTF8)).place
    [Text.encode "k", Text.encode "w"] (.link (Path.ofString "f"))).place
    [Text.encode "l", Text.encode "w"] (.link (Path.ofString "m/x")))

def ofText (onlyNew : Bool) (path content : String) : WriteCall :=
  ⟨{}, onlyNew, Text.encode ".tmp-0", Path.ofString path, content⟩

/-- The first of these calls replaces the link `l`, the last one makes a directory; those between
fail or keep what is there. -/
def tangledCalls : List WriteCall :=
  [ofText false "l" "one", ofText false "k" "two", ofText true "f" "two", ofText false "l/x" "two",
    ofText true "m/x" "three"]

theorem first_writer_wins_tangled :
    CarefulRun tangledWorld tangledCalls ∧
      (worldAfter tangledWorld tangledCalls).tree.readText (Path.ofString "k") = .ok "old" ∧
      (worldAfter tangledWorld tangledCalls).tree.readText (Path.ofString "l") = .ok "one" := by
  have careful : CarefulRun tangledWorld tangledCalls := by
    refine carefulRun_cons.mpr ⟨?_, carefulRun_cons.mpr ⟨?_, carefulRun_cons.mpr ⟨?_,
      carefulRun_cons.mpr ⟨?_, carefulRun_cons.mpr ⟨?_, carefulRun_nil _⟩⟩⟩⟩⟩
    all_goals apply Careful.of_resolved
    all_goals decide +kernel
  obtain ⟨kept, written⟩ := first_writer_wins tangledWorld tangledCalls careful
  refine ⟨careful, ?_, ?_⟩
  · have earlier : tangledWorld.tree.readText (Path.ofString "k") = .ok "old" := by
      decide +kernel
    exact kept [] tangledCalls (List.prefix_refl _) _ _ earlier
  · exact written [] (ofText false "l" "one") _ (List.prefix_refl _) (by decide +kernel)

end WriteCall

end Scaffold
