import Scaffold.Proofs.FileTree.Growth

/-! Actions that report nothing.

What changes a tree of files is done step by step and reports none of its steps, whatever it comes
to. So the events of an operation are those that it reports itself: `silent_makeDirectories` and
`silent_replaceWhole`. -/

set_option autoImplicit false

namespace Scaffold

/-! ### Composing silent actions -/

namespace Action

variable {ε α β : Type}

/-- The log is the same after an action, whether it fails or not. -/
def Silent (action : Action ε α) : Prop := ∀ world, (runIn world action).2.log = world.log

namespace Silent

theorem pure (value : α) : Silent (Pure.pure value : Action ε α) := fun _ => rfl

theorem throw (cause : ε) : Silent (MonadExcept.throw cause : Action ε α) := fun _ => rfl

theorem tree : Silent (Action.tree : Action ε FileTree) := fun _ => rfl

theorem perform (step : Step) : Silent (Action.perform step : Action ε Unit) := fun _ => rfl

theorem ofExcept (result : Except ε α) : Silent (Action.ofExcept result) := by
  intro world
  rw [runIn_ofExcept]

theorem bind {action : Action ε α} {further : α → Action ε β} (first : Silent action)
    (second : ∀ value, Silent (further value)) : Silent (action >>= further) := by
  intro world
  have before := first world
  rw [runIn_bind]
  rcases ran : runIn world action with ⟨result, next⟩
  rw [ran] at before
  cases result with
  | ok value => exact (second value next).trans before
  | error cause => exact before

theorem tryCatch {action : Action ε α} {recover : ε → Action ε α} (first : Silent action)
    (second : ∀ cause, Silent (recover cause)) : Silent (tryCatch action recover) := by
  intro world
  have before := first world
  rw [runIn_tryCatch]
  rcases ran : runIn world action with ⟨result, next⟩
  rw [ran] at before
  cases result with
  | ok value => exact before
  | error cause => exact (second cause next).trans before

end Silent

end Action

/-! ### Making directories and replacing files -/

namespace FileTree

open Scaffold.Action

theorem silent_unless_isDirectory (path : Path) (cause : Fault) :
    Silent (do unless (← Action.tree).isDirectory path do throw cause : Action Fault Unit) := by
  intro world
  rw [runIn_unless_isDirectory]

theorem silent_ensureDirectory (path : Path) (mode : UInt32) :
    Silent (ensureDirectory path mode) := by
  apply Silent.bind Silent.tree
  intro tree
  cases tree.makeDirectory? path mode with
  | ok step => exact .perform step
  | error cause => exact silent_unless_isDirectory path cause

theorem silent_makeDirectories (mode : UInt32) (paths : List Path) :
    Silent (makeDirectories mode paths) := by
  induction paths with
  | nil => exact .pure ()
  | cons path outer ih =>
      apply Silent.bind Silent.tree
      intro tree
      cases tree.makeDirectory? path mode with
      | ok step => exact .perform step
      | error cause =>
          cases cause with
          | notFound => exact ih.bind fun _ => silent_ensureDirectory path mode
          | _ => exact silent_unless_isDirectory path _

theorem silent_writeWhole (path : Path) (content : ByteArray) :
    Silent (writeWhole path content) := by
  apply Silent.bind Silent.tree
  intro tree
  apply (Silent.ofExcept _).bind
  intro pair
  refine (Silent.perform pair.2).bind fun _ => (Silent.perform _).bind fun _ => ?_
  cases tree.limits.holds content with
  | true => exact .pure ()
  | false => exact .throw Fault.fileTooLarge

theorem silent_renameFile (source destination : Path) : Silent (renameFile source destination) :=
  Silent.tree.bind fun _ => (Silent.ofExcept _).bind fun step => .perform step

theorem silent_discard {ε : Type} (path : Path) : Silent (discard path : Action ε Unit) := by
  apply Silent.bind Silent.tree
  intro tree
  cases tree.unlink? path with
  | ok step => exact .perform step
  | error cause => exact .pure ()

theorem silent_replaceWhole (temporary : Name) (path : Path) (content : ByteArray) :
    Silent (replaceWhole temporary path content) := by
  apply Silent.tryCatch
  · exact (silent_writeWhole _ content).bind fun _ => silent_renameFile _ path
  · exact fun cause => (silent_discard _).bind fun _ => .throw cause

end FileTree

end Scaffold
