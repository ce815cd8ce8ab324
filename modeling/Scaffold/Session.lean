import Scaffold.FileTree.Arrange
import Scaffold.Recipe

/-! Sessions: one set of tools used on one tree of files.

A session keeps the tools that its user set up last, and the world that they work in. Each use
runs an action and keeps the world it leaves, whether the action succeeds or not. Files can be written
from the start; any other tool has to be set up before it can be used. -/

set_option autoImplicit false

namespace Scaffold

/-- The tools in use and the world they work in. -/
structure Session where
  world : World
  directory : Option StubDirectory
  compiler : Option Compiler
  policy : WritePolicy
  workshop : Option Workshop

namespace Session

def start : Session where
  world := World.ofTree FileTree.fresh
  directory := none
  compiler := none
  policy := {}
  workshop := none

def tree (session : Session) : FileTree := session.world.tree

/-- The result of an action, and the session after it. -/
def run {ε α : Type} (session : Session) (action : Action ε α) : Except ε α × Session :=
  let (result, world) := Action.runIn session.world action
  (result, { session with world })

def arrange (session : Session) (change : FileTree → FileTree) : Session :=
  { session with world := { session.world with tree := change session.tree } }

def temporary (session : Session) : Name := session.tree.unusedName

def write (session : Session) (path : Path) (content : String) : Except Failure Unit × Session :=
  session.run (session.policy.write session.temporary path content)

/-- Write a file under the policy of the session unless something is at its path. -/
def writeNew (session : Session) (path : Path) (content : String) :
    Except Failure Bool × Session :=
  session.run (session.policy.writeNew session.temporary path content)

def follow (session : Session) (recipe : Recipe) (name : String) (request : Request) :
    Option (Except Failure (List Path) × Session) :=
  session.workshop.map fun workshop =>
    session.run (recipe.follow workshop session.temporary name request)

/-- Set up the workshop of the session from a settings file; if that fails the old one stays. -/
def loadWorkshop (session : Session) (source : SettingsSource)
    (environment : Environment.Variables) : Except Failure Workshop × Session :=
  match session.run (Workshop.load source environment) with
  | (.ok workshop, next) => (.ok workshop, { next with workshop := some workshop })
  | (.error cause, next) => (.error cause, next)

end Session

end Scaffold
