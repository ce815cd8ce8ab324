import Scaffold.FileTree.Basic
import Scaffold.FileTree.Fault

/-! Path resolution: which location of a tree a path leads to.

Components are taken one after the other from the working directory, or from the root for an
absolute path. Every component but the last has to lead to a directory, a trailing slash or `.`
asks the same of the last one, and `..` goes to the directory that encloses the one reached so
far, not to the segment before it. A symbolic link is replaced by the components of its target;
the number of links followed is limited. The last entry may be missing: then resolution tells where
it would be.

`resolve` follows a link in the last place, as reading does; `resolveParent` stops before the last
component, as creating, renaming and removing do. -/

set_option autoImplicit false

namespace Scaffold

inductive Intent where
  | inspect
  /-- To create a file where none is: a trailing slash then asks for a directory. -/
  | create
deriving DecidableEq

inductive Destination where
  | existing (location : Location)
  | missing (directory : Location) (name : Name)
deriving DecidableEq

def Destination.location : Destination → Location
  | .existing location => location
  | .missing directory name => name :: directory

namespace FileTree

/-- Where the components of a path start: at the root, or at the given directory. -/
def startOf (directory : Location) (path : Path) : Location :=
  if path.isAbsolute then [] else directory

/-- Resolve components from a directory, where `follow` resolves what a link leads to. -/
def walkWith (tree : FileTree) (intent : Intent)
    (follow : Location → List Component → Except Fault Destination) :
    Location → List Component → Except Fault Destination
  | directory, [] => .ok (.existing directory)
  | directory, .blank :: rest => walkWith tree intent follow directory rest
  | directory, .here :: rest => walkWith tree intent follow directory rest
  | directory, .up :: rest => walkWith tree intent follow directory.tail rest
  | directory, .entry name :: rest =>
      if intent = .create ∧ rest ≠ [] ∧ rest.all (· = .blank) then .error .isADirectory
      else if tree.limits.nameBytes < name.length then .error .nameTooLong
      else match tree.at? (name :: directory) with
        | none => if rest = [] then .ok (.missing directory name) else .error .notFound
        | some (.directory _) => walkWith tree intent follow (name :: directory) rest
        | some (.file _) =>
            if rest = [] then .ok (.existing (name :: directory)) else .error .notADirectory
        | some (.link target) => follow (startOf directory target) (target.components ++ rest)

/-- Resolve components from a directory, following at most the given number of links. -/
def walk (tree : FileTree) (intent : Intent) :
    Nat → Location → List Component → Except Fault Destination
  | 0 => walkWith tree intent fun _ _ => .error .tooManyLinks
  | links + 1 => walkWith tree intent (walk tree intent links)

/-- Refuse a path that no resolution takes up: one with a byte 0, an empty one, one too long. -/
def checkPath (tree : FileTree) (path : Path) : Except Fault Unit :=
  if path.hasNul then .error .nulInPath
  else if path.isEmpty then .error .notFound
  else if tree.limits.pathBytes < path.bytes.length then .error .nameTooLong
  else .ok ()

def resolve (tree : FileTree) (intent : Intent) (path : Path) : Except Fault Destination := do
  tree.checkPath path
  tree.walk intent tree.limits.links (startOf tree.workingDirectory path) path.components

/-! ### The directory of a path's last component -/

/-- The last component of a path, seen from the directory that holds it. -/
inductive LastStep where
  | special
  /-- A name, with or without a slash after it. -/
  | named (name : Name) (slashFollows : Bool)
deriving DecidableEq

/-- Divide components into those before the last one that is not blank, and that one. -/
def splitLast (components : List Component) : List Component × LastStep :=
  let slashFollows := components.getLast? = some .blank
  match components.reverse.dropWhile (· = .blank) with
  | [] => ([], .special)
  | .entry name :: outer => (outer.reverse, .named name slashFollows)
  | _ :: outer => (outer.reverse, .special)

/-- The directory that holds the last component of a path, and that component. Links are followed
before it, and a link in its place is not. -/
def resolveParent (tree : FileTree) (path : Path) : Except Fault (Location × LastStep) := do
  tree.checkPath path
  let (before, last) := splitLast path.components
  let reached ← tree.walk .inspect tree.limits.links (startOf tree.workingDirectory path)
    (before ++ [.here])
  return (reached.location, last)

/-! ### What is at a path -/

/-- The location of the entry that a path leads to, with that entry. -/
def find? (tree : FileTree) (path : Path) : Except Fault (Location × Entry) := do
  match ← tree.resolve .inspect path with
  | .missing _ _ => throw .notFound
  | .existing location =>
      match tree.at? location with
      | some entry => return (location, entry)
      | none => throw .notFound

/-- Whether a path leads to an entry. Where resolution fails for whatever cause, it does not. -/
def exists? (tree : FileTree) (path : Path) : Bool := (tree.find? path).isOk

def isFile (tree : FileTree) (path : Path) : Bool :=
  match tree.find? path with
  | .ok (_, .file _) => true
  | _ => false

def isDirectory (tree : FileTree) (path : Path) : Bool :=
  match tree.find? path with
  | .ok (_, .directory _) => true
  | _ => false

def readBytes (tree : FileTree) (path : Path) : Except Fault ByteArray := do
  match (← tree.find? path).2 with
  | .file content => return content
  | .directory _ => throw .isADirectory
  | .link _ => throw .tooManyLinks

def readText (tree : FileTree) (path : Path) : Except Fault String := do
  match String.fromUTF8? (← tree.readBytes path) with
  | some text => return text
  | none => throw .notText

def readDirectory (tree : FileTree) (path : Path) : Except Fault (List Name) := do
  let (location, entry) ← tree.find? path
  if entry.isDirectory then return tree.childNames location else throw .notADirectory

end FileTree

end Scaffold
