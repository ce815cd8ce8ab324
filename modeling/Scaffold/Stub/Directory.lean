import Scaffold.Action
import Scaffold.Failure
import Scaffold.Template.TokenNames

/-! Stub directories: named templates kept as files.

The stub `name` is the file `name.stub` directly in a directory. A name with a separator in it, or
one that means a directory, names no stub, so no name leads out of the directory. Nothing is kept
in memory: each time a stub is asked for, its file is read. -/

set_option autoImplicit false

namespace Scaffold

structure StubDirectory where
  root : Path
deriving DecidableEq

structure Stub where
  name : String
  content : String
deriving DecidableEq, Repr

def Stub.tokenNames (stub : Stub) : List String := Template.tokenNames stub.content

namespace StubDirectory

def suffix : String := ".stub"

def isStubName (name : String) : Bool :=
  !(name.toList.any fun c => c == '/' || c == '\\') && name != "." && name != ".."

def stubPath (directory : StubDirectory) (name : String) : Path :=
  directory.root.join (Path.ofString (name ++ suffix))

def holds (directory : StubDirectory) (tree : FileTree) (name : String) : Bool :=
  isStubName name && tree.isFile (directory.stubPath name)

def text? (directory : StubDirectory) (tree : FileTree) (name : String) :
    Except Failure String :=
  if !isStubName name || !tree.exists? (directory.stubPath name) then
    .error (.stubNotFound name)
  else
    match tree.readText (directory.stubPath name) with
    | .ok text => .ok text
    | .error fault => .error (.stubUnreadable name fault)

def read (directory : StubDirectory) (name : String) : Action Failure String := do
  unless isStubName name do Action.report (.rejectedStubName name)
  let text ← Action.ofExcept (directory.text? (← Action.tree) name)
  Action.report (.loadedStub name (directory.stubPath name) text.utf8ByteSize)
  return text

def readStub (directory : StubDirectory) (name : String) : Action Failure Stub := do
  return ⟨name, ← directory.read name⟩

/-- The stub name that a file name gives, if it is the file name of a stub that is listed: the
name is text, not empty, and does not begin with a dot. -/
def listedName? (fileName : Name) : Option String :=
  let ending := Text.encode suffix
  if ending.isSuffixOf fileName then
    let stem := fileName.take (fileName.length - ending.length)
    if stem.head?.all (· == 0x2E) then none else Text.decode stem
  else none

def listed (directory : StubDirectory) (tree : FileTree) (entries : List Name) : List String :=
  let present := entries.filter fun name => tree.isFile (directory.root.join ⟨name⟩)
  (present.filterMap listedName?).mergeSort fun left right =>
    (Text.encode left).lex (Text.encode right) || left == right

def names (directory : StubDirectory) (tree : FileTree) : List String :=
  match tree.readDirectory directory.root with
  | .ok entries => directory.listed tree entries
  | .error _ => []

def list {ε : Type} (directory : StubDirectory) : Action ε (List String) := do
  match (← Action.tree).readDirectory directory.root with
  | .ok entries => return directory.listed (← Action.tree) entries
  | .error fault =>
      Action.report (.unreadableStubDirectory directory.root fault)
      return []

end StubDirectory

end Scaffold
