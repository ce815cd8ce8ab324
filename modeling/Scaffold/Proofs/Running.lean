import Scaffold.Action

/-! Running actions.

Each law says what one building block of actions does to a world; the sequence of two actions hands
the world of the first one on. Later modules reason with these laws and never look into the monad.
`World.Took` says which steps lie between two worlds. -/

set_option autoImplicit false

namespace Scaffold.Action

variable {ε δ α β : Type} (world : World)

@[simp] theorem runIn_pure (value : α) :
    runIn world (pure value : Action ε α) = (.ok value, world) := rfl

@[simp] theorem runIn_throw (cause : ε) :
    runIn world (throw cause : Action ε α) = (.error cause, world) := rfl

theorem runIn_bind (action : Action ε α) (further : α → Action ε β) :
    runIn world (action >>= further) =
      match runIn world action with
      | (.ok value, next) => runIn next (further value)
      | (.error cause, next) => (.error cause, next) := by
  unfold runIn ExceptT.run StateT.run
  simp only [bind, ExceptT.bind, ExceptT.mk, StateT.bind]
  rcases action world with ⟨result, next⟩
  cases result with
  | ok value => rfl
  | error cause => rfl

theorem runIn_bind_of_ok {action : Action ε α} {world next : World} {value : α}
    (ran : runIn world action = (.ok value, next)) (further : α → Action ε β) :
    runIn world (action >>= further) = runIn next (further value) := by
  rw [runIn_bind, ran]

theorem runIn_then_pure (action : Action ε α) (value : β) :
    runIn world (do let _ ← action; return value) =
      ((runIn world action).1.map fun _ => value, (runIn world action).2) := by
  rw [runIn_bind]
  rcases runIn world action with ⟨result, next⟩
  cases result with
  | ok _ => rfl
  | error cause => rfl

@[simp] theorem runIn_tree_bind (further : FileTree → Action ε β) :
    runIn world (Action.tree >>= further) = runIn world (further world.tree) := rfl

@[simp] theorem runIn_report (event : Event) :
    runIn world (report event : Action ε Unit) =
      (.ok (), { world with log := world.log ++ [event] }) := rfl

@[simp] theorem runIn_perform (step : Step) :
    runIn world (perform step : Action ε Unit) =
      (.ok (), { world with
        tree := world.tree.apply step, journal := world.journal ++ [step] }) := rfl

@[simp] theorem runIn_ofExcept (result : Except ε α) :
    runIn world (ofExcept result) = (result, world) := by
  cases result with
  | ok value => rfl
  | error cause => rfl

theorem runIn_withFailure (describe : ε → δ) (action : Action ε α) :
    runIn world (withFailure describe action) =
      ((runIn world action).1.mapError describe, (runIn world action).2) := by
  unfold runIn withFailure ExceptT.run StateT.run
  simp only [bind, ExceptT.mk, StateT.bind]
  rcases action world with ⟨result, next⟩
  cases result with
  | ok value => rfl
  | error cause => rfl

theorem runIn_ok_of_withFailure {describe : ε → δ} {action : Action ε α} {world next : World}
    {value : α} (ran : runIn world (withFailure describe action) = (.ok value, next)) :
    runIn world action = (.ok value, next) := by
  rw [runIn_withFailure] at ran
  rcases own : runIn world action with ⟨answer, last⟩
  rw [own] at ran
  cases answer with
  | ok _ =>
      cases ran
      rfl
  | error cause => cases ran

theorem runIn_tryCatch (action : Action ε α) (recover : ε → Action ε α) :
    runIn world (tryCatch action recover) =
      match runIn world action with
      | (.ok value, next) => (.ok value, next)
      | (.error cause, next) => runIn next (recover cause) := by
  unfold runIn ExceptT.run StateT.run
  simp only [tryCatch, tryCatchThe, MonadExceptOf.tryCatch, ExceptT.tryCatch, ExceptT.mk, bind,
    StateT.bind]
  rcases action world with ⟨result, next⟩
  cases result with
  | ok value => rfl
  | error cause => rfl

end Scaffold.Action

namespace Scaffold

theorem FileTree.applyAll_append (tree : FileTree) (steps further : List Step) :
    tree.applyAll (steps ++ further) = (tree.applyAll steps).applyAll further :=
  List.foldl_append

namespace World

structure Took (world next : World) (steps : List Step) : Prop where
  tree_eq : next.tree = world.tree.applyAll steps
  journal_eq : next.journal = world.journal ++ steps

namespace Took

variable {world between next : World} {steps further : List Step}

theorem refl (world : World) : world.Took world [] := ⟨rfl, (List.append_nil _).symm⟩

theorem trans (first : world.Took between steps) (second : between.Took next further) :
    world.Took next (steps ++ further) where
  tree_eq := by rw [second.tree_eq, first.tree_eq, FileTree.applyAll_append]
  journal_eq := by rw [second.journal_eq, first.journal_eq, List.append_assoc]

theorem perform (world : World) (step : Step) :
    world.Took { world with tree := world.tree.apply step, journal := world.journal ++ [step] }
      [step] :=
  ⟨rfl, rfl⟩

theorem of_same (took : world.Took between steps) (tree : next.tree = between.tree)
    (journal : next.journal = between.journal) : world.Took next steps :=
  ⟨tree.trans took.tree_eq, journal.trans took.journal_eq⟩

end Took

end World

end Scaffold
