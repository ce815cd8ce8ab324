import Scaffold.Event
import Scaffold.FileTree.Step

/-! Actions: operations that change a tree of files and report events.

An action runs in a world: the tree, the events reported so far, and the steps taken so far. It
ends with a result or a failure, and in both cases the world is what it has become. The tree
changes in one way only, by `perform`, so it is always the tree of the beginning after the steps
in the journal. -/

set_option autoImplicit false

namespace Scaffold

/-- What actions change. -/
structure World where
  tree : FileTree
  log : List Event
  /-- The steps that changed the tree, the earliest first. -/
  journal : List Step

def World.ofTree (tree : FileTree) : World := ⟨tree, [], []⟩

/-- An operation that may fail with an `ε`. -/
abbrev Action (ε α : Type) := ExceptT ε (StateM World) α

namespace Action

/-- The result of an action in a world, and the world after it. -/
def runIn {ε α : Type} (world : World) (action : Action ε α) : Except ε α × World :=
  (ExceptT.run action).run world

def tree {ε : Type} : Action ε FileTree := do return (← get).tree

def report {ε : Type} (event : Event) : Action ε Unit :=
  modify fun world => { world with log := world.log ++ [event] }

def perform {ε : Type} (step : Step) : Action ε Unit :=
  modify fun world =>
    { world with tree := world.tree.apply step, journal := world.journal ++ [step] }

def ofExcept {ε α : Type} (result : Except ε α) : Action ε α :=
  match result with
  | .ok value => pure value
  | .error cause => throw cause

def withFailure {ε δ α : Type} (describe : ε → δ) (action : Action ε α) : Action δ α :=
  ExceptT.mk do
    match ← ExceptT.run action with
    | .ok value => return .ok value
    | .error cause => return .error (describe cause)

end Action

end Scaffold
