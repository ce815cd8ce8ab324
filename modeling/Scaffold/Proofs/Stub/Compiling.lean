import Scaffold.Proofs.Running
import Scaffold.Proofs.Template.Layers
import Scaffold.Stub.Compiler

/-! What compiling a stub comes to.

Reading a stub changes no file, and filling it in looks at two layers of tokens without ever putting
them together. The result is that of one token set in which the upper layer wins. Main statement:
`fill_and_compileFor_merge`. -/

set_option autoImplicit false

namespace Scaffold

theorem StubDirectory.runIn_read (directory : StubDirectory) (name : String) (world : World) :
    ∃ log, Action.runIn world (directory.read name) =
      (directory.text? world.tree name, { world with log := log }) := by
  have loaded (earlier : List Event) :
      ∃ log, Action.runIn { world with log := earlier } (do
          let text ← Action.ofExcept (directory.text? (← Action.tree) name)
          Action.report (.loadedStub name (directory.stubPath name) text.utf8ByteSize)
          return text : Action Failure String) =
        (directory.text? world.tree name, { world with log := log }) := by
    rw [Action.runIn_tree_bind, Action.runIn_bind, Action.runIn_ofExcept]
    cases directory.text? world.tree name with
    | ok text => exact ⟨_, rfl⟩
    | error cause => exact ⟨earlier, rfl⟩
  unfold read
  cases isStubName name with
  | true =>
      simp only [if_true]
      exact loaded world.log
  | false =>
      simp only [Bool.false_eq_true, if_false]
      rw [Action.runIn_bind, Action.runIn_report]
      exact loaded (world.log ++ [.rejectedStubName name])

theorem StubDirectory.readText_of_text? {directory : StubDirectory} {tree : FileTree}
    {name text : String} (found : directory.text? tree name = .ok text) :
    tree.readText (directory.stubPath name) = .ok text := by
  unfold text? at found
  split at found
  next => cases found
  next =>
      cases reads : tree.readText (directory.stubPath name) with
      | ok other =>
          rw [reads] at found
          cases found
          rfl
      | error fault =>
          rw [reads] at found
          cases found

theorem Compiler.runIn_compile (compiler : Compiler) (name : String) (tokens : Tokens)
    (world : World) :
    ∃ log, Action.runIn world (compiler.compile name tokens) =
      ((compiler.directory.text? world.tree name).map (compiler.fill · tokens),
        { world with log := log }) := by
  obtain ⟨log, ran⟩ := compiler.directory.runIn_read name world
  rw [compile, Action.runIn_bind, ran]
  cases compiler.directory.text? world.tree name with
  | ok text => exact ⟨_, rfl⟩
  | error cause => exact ⟨log, rfl⟩

namespace Compiler

/-- The tokens that a stub of a project is compiled with, the weakest layer first. -/
def layersFor (compiler : Compiler) (project : Naming.Project) (tokens : Tokens) : Tokens :=
  (compiler.defaults.overlay project.tokens).overlay tokens

theorem get?_layersFor (compiler : Compiler) (project : Naming.Project) (tokens : Tokens)
    (name : String) :
    (compiler.layersFor project tokens).get? name =
      (tokens.get? name).or ((project.tokens.get? name).or (compiler.defaults.get? name)) := by
  rw [layersFor, Tokens.get?_overlay, Tokens.get?_overlay]

theorem fill_eq (compiler : Compiler) (text : String) (tokens : Tokens) :
    compiler.fill text tokens = Template.expand text (compiler.defaults.overlay tokens) :=
  Template.expandLayered_eq text compiler.defaults tokens

theorem fill_overlay (compiler : Compiler) (text : String) (project : Naming.Project)
    (tokens : Tokens) :
    compiler.fill text (project.tokens.overlay tokens) =
      Template.expand text (compiler.layersFor project tokens) := by
  rw [fill_eq]
  apply Template.expand_congr
  intro name
  exact (Tokens.get?_overlay_assoc _ _ _ name).symm

theorem result_compileFor (compiler : Compiler) (project : Naming.Project) (name : String)
    (tokens : Tokens) (world : World) :
    (Action.runIn world (compiler.compileFor project name tokens)).1 =
      (compiler.directory.text? world.tree name).map fun text =>
        Template.expand text (compiler.layersFor project tokens) := by
  obtain ⟨log, ran⟩ := compiler.runIn_compile name (project.tokens.overlay tokens) world
  rw [compileFor, ran]
  cases compiler.directory.text? world.tree name with
  | ok text => exact congrArg Except.ok (compiler.fill_overlay text project tokens)
  | error cause => rfl

/-- Filling in from two layers is expansion with the upper laid over the lower, and a stub of a
project is compiled with the given tokens over those of the project over the defaults. -/
theorem fill_and_compileFor_merge (compiler : Compiler) (text name : String)
    (project : Naming.Project) (tokens : Tokens) (world : World) :
    (∀ key, (compiler.defaults.overlay tokens).get? key =
        (tokens.get? key).or (compiler.defaults.get? key)) ∧
      compiler.fill text tokens = Template.expand text (compiler.defaults.overlay tokens) ∧
      (∀ key, (compiler.layersFor project tokens).get? key =
        (tokens.get? key).or ((project.tokens.get? key).or (compiler.defaults.get? key))) ∧
      (Action.runIn world (compiler.compileFor project name tokens)).1 =
        (compiler.directory.text? world.tree name).map fun stub =>
          Template.expand stub (compiler.layersFor project tokens) :=
  ⟨Tokens.get?_overlay _ _, compiler.fill_eq text tokens, compiler.get?_layersFor project tokens,
    compiler.result_compileFor project name tokens world⟩

end Compiler

end Scaffold
