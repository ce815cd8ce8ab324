import Scaffold.FileTree.Resolve

/-! The primitive steps that change a tree.

A step names locations, not paths: `makeDirectory?`, `createFile?`, `rename?` and `unlink?` resolve
the paths that they are given in the tree as it is, and answer with the step to take or with the
fault. `apply` takes a step. Every operation that writes is a sequence of such steps, so what can
be seen between two of them is the tree after a prefix of that sequence.

No step is refused for want of permission. A new directory takes the permission bits that are asked
for within `directoryModeMask`, and the set-group-ID bit of the directory that it is made in. -/

set_option autoImplicit false

namespace Scaffold

def directoryModeMask : UInt32 := 0o1777

def groupIdBit : UInt32 := 0o2000

inductive Step where
  | makeDirectory (location : Location) (mode : UInt32)
  /-- Make an empty file, or empty the one that is there. -/
  | createFile (location : Location)
  | append (location : Location) (content : ByteArray)
  /-- Move a file to another location, replacing a file or link there. -/
  | rename (source destination : Location)
  | remove (location : Location)
deriving DecidableEq

namespace FileTree

/-- The tree after a step. A step that the tree does not allow changes nothing. -/
def apply (tree : FileTree) : Step → FileTree
  | .makeDirectory location mode =>
      match tree.at? location with
      | none => tree.place location (.directory mode)
      | some _ => tree
  | .createFile location => tree.place location (.file ByteArray.empty)
  | .append location content =>
      match tree.at? location with
      | some (.file before) => tree.place location (.file (before ++ content))
      | _ => tree
  | .rename source destination =>
      match tree.at? source, (tree.at? destination).any Entry.isDirectory with
      | some (.file content), false => (tree.prune source).place destination (.file content)
      | _, _ => tree
  | .remove location =>
      match tree.at? location with
      | some (.file _) => tree.prune location
      | some (.link _) => tree.prune location
      | _ => tree

def applyAll (tree : FileTree) (steps : List Step) : FileTree := steps.foldl apply tree

/-- The set-group-ID bit of the innermost directory on the way to a location. -/
def groupBit (tree : FileTree) : Location → UInt32
  | [] => rootMode &&& groupIdBit
  | name :: parent =>
      match tree.at? (name :: parent) with
      | some (.directory mode) => mode &&& groupIdBit
      | _ => groupBit tree parent

def newMode (tree : FileTree) (mode : UInt32) (location : Location) : UInt32 :=
  mode &&& directoryModeMask ||| tree.groupBit location

def makeDirectory? (tree : FileTree) (path : Path) (mode : UInt32) : Except Fault Step := do
  match ← tree.resolveParent path with
  | (_, .special) => throw .alreadyExists
  | (parent, .named name _) =>
      if tree.limits.nameBytes < name.length then throw .nameTooLong
      else match tree.at? (name :: parent) with
        | some _ => throw .alreadyExists
        | none => return .makeDirectory (name :: parent) (tree.newMode mode (name :: parent))

/-- The step that opens a file at a path for writing, made or emptied, and its location. -/
def createFile? (tree : FileTree) (path : Path) : Except Fault (Location × Step) := do
  match ← tree.resolve .create path with
  | .missing directory name => return (name :: directory, .createFile (name :: directory))
  | .existing location =>
      match tree.at? location with
      | some (.file _) => return (location, .createFile location)
      | _ => throw .isADirectory

def rename? (tree : FileTree) (source destination : Path) : Except Fault Step := do
  let (sourceParent, sourceLast) ← tree.resolveParent source
  let (parent, last) ← tree.resolveParent destination
  match sourceLast, last with
  | .named sourceName sourceSlash, .named name slashFollows =>
      if tree.limits.nameBytes < sourceName.length then throw .nameTooLong
      match tree.at? (sourceName :: sourceParent) with
      | none => throw .notFound
      | some _ =>
          if tree.limits.nameBytes < name.length then throw .nameTooLong
          if sourceSlash || slashFollows then throw .notADirectory
          if (tree.at? (name :: parent)).any Entry.isDirectory then throw .isADirectory
          return .rename (sourceName :: sourceParent) (name :: parent)
  | _, _ => throw .busy

def unlink? (tree : FileTree) (path : Path) : Except Fault Step := do
  match ← tree.resolveParent path with
  | (_, .special) => throw .isADirectory
  | (parent, .named name _) =>
      match tree.at? (name :: parent) with
      | none => throw .notFound
      | some (.directory _) => throw .isADirectory
      | some _ => return .remove (name :: parent)

end FileTree

end Scaffold
