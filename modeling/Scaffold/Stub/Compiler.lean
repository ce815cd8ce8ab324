import Scaffold.Naming.Tokens
import Scaffold.Stub.Directory
import Scaffold.Template.Expand

/-! Compiling stubs: the text of a stub with its tokens filled in.

A compiler has tokens of its own, which every call may override for itself. -/

set_option autoImplicit false

namespace Scaffold

/-- A stub directory with the tokens that hold for all its stubs. -/
structure Compiler where
  directory : StubDirectory
  defaults : Tokens

namespace Compiler

/-- A text with the tokens of the compiler filled in, under those given. -/
def fill (compiler : Compiler) (text : String) (tokens : Tokens) : String :=
  Template.expandLayered text compiler.defaults tokens

def compile (compiler : Compiler) (name : String) (tokens : Tokens) : Action Failure String := do
  let text ← compiler.directory.read name
  Action.report (.compiledStub name (compiler.defaults.size + tokens.size))
  return compiler.fill text tokens

/-- The stub called `name` with its tokens filled in, those of a project among them; the given
tokens come first. -/
def compileFor (compiler : Compiler) (project : Naming.Project) (name : String)
    (tokens : Tokens) : Action Failure String :=
  compiler.compile name (project.tokens.overlay tokens)

end Compiler

end Scaffold
