import Scaffold.Output
import Scaffold.Settings.Source
import Scaffold.Stub.Compiler

/-! Recipes: which stub makes an item, and where the item goes.

A workshop has what every recipe needs. Following a recipe for an item compiles its stub and writes
the result below the base path, under the policy of the workshop or as the call asks for. -/

set_option autoImplicit false

namespace Scaffold

structure Workshop where
  compiler : Compiler
  policy : WritePolicy
  basePath : Path
  project : Option Naming.Project

namespace Workshop

def ofSettings (settings : Settings) : Workshop where
  compiler := ⟨⟨Path.ofString settings.stubDirectory⟩, settings.defaults⟩
  policy := WritePolicy.ofSettings settings
  basePath := Path.ofString settings.basePath
  project := settings.project

def load (source : SettingsSource) (environment : Environment.Variables) :
    Action Failure Workshop := do
  return ofSettings (← Action.withFailure .settings (source.load environment))

/-- An output path below the base path; an absolute path stays. -/
def resolve (workshop : Workshop) (path : Path) : Path := workshop.basePath.join path

/-- A stub with its tokens filled in, those of the project among them if there is one. -/
def compile (workshop : Workshop) (stub : String) (tokens : Tokens) : Action Failure String :=
  match workshop.project with
  | some project => workshop.compiler.compileFor project stub tokens
  | none => workshop.compiler.compile stub tokens

end Workshop

structure Request where
  force : Bool := false
  /-- Leave a file that exists as it is; does not count with `force`. -/
  keepExisting : Bool := false
  /-- Tokens that come before those of the item. -/
  tokens : Tokens := ∅

/-- Which stub makes an item, and where the item goes. -/
structure Recipe where
  stub : String
  pathTemplate : String
deriving DecidableEq, Repr

namespace Recipe

def tokensFor (name : String) (request : Request) : Tokens :=
  (Naming.itemTokens name).overlay request.tokens

/-- The output path of the item called `name`. Only the tokens of the item itself count here. -/
def outputPath (recipe : Recipe) (name : String) : Path :=
  Path.ofString (Template.expand recipe.pathTemplate (Naming.itemTokens name))

/-- Write an item as the request asks for; tells whether it was written. -/
def place (workshop : Workshop) (request : Request) (temporary : Name) (path : Path)
    (content : String) : Action Failure Bool := do
  if request.force then
    let forced : WritePolicy := { workshop.policy with mayReplace := true }
    forced.write temporary path content
    return true
  else if request.keepExisting then
    workshop.policy.writeNew temporary path content
  else
    workshop.policy.write temporary path content
    return true

/-- Make the item called `name`; the answer lists the paths written. -/
def follow (recipe : Recipe) (workshop : Workshop) (temporary : Name) (name : String)
    (request : Request) : Action Failure (List Path) := do
  let content ← workshop.compile recipe.stub (tokensFor name request)
  let path := workshop.resolve (recipe.outputPath name)
  if ← place workshop request temporary path content then
    Action.report (.generatedFile recipe.stub path)
    return [path]
  else
    Action.report (.skippedFile recipe.stub path)
    return []

end Recipe

end Scaffold
