import Scaffold.FileTree.Writing

/-! Arranging a tree from outside, and showing it.

Files, directories and links can be put into a tree and taken out of it without regard to any
policy, and a tree can be listed as it is. What cannot be put where it is asked for is left out. -/

set_option autoImplicit false

namespace Scaffold.FileTree

def arrangedMode : UInt32 := 0o755

def after {ε α : Type} (tree : FileTree) (action : Action ε α) : FileTree :=
  (Action.runIn (World.ofTree tree) action).2.tree

def arrangeDirectory (tree : FileTree) (path : Path) : FileTree :=
  tree.after (makeDirectories arrangedMode path.chain)

def arrangeAround (tree : FileTree) (path : Path) : FileTree :=
  (path.parent?.map tree.arrangeDirectory).getD tree

def arrangeFile (tree : FileTree) (path : Path) (content : ByteArray) : FileTree :=
  (tree.arrangeAround path).after (writeWhole path content)

def arrangeLink (tree : FileTree) (path target : Path) : FileTree :=
  let around := tree.arrangeAround path
  match around.resolveParent path with
  | .ok (parent, .named name _) =>
      match around.at? (name :: parent) with
      | none => around.place (name :: parent) (.link target)
      | some _ => around
  | _ => around

/-- The tree without what is at a path, a link taken for itself. -/
def clear (tree : FileTree) (path : Path) : FileTree :=
  match tree.resolveParent path with
  | .ok (parent, .named name _) => tree.prune (name :: parent)
  | _ => tree

def relativePath? (tree : FileTree) (location : Location) : Option Path :=
  if isWithin location tree.workingDirectory && location != tree.workingDirectory then
    match (location.take (location.length - tree.workingDirectory.length)).reverse with
    | [] => none
    | first :: further => some (Path.ofSegments first further)
  else none

/-- The entries below the working directory in the order of the bytes of their paths. -/
def listing (tree : FileTree) : List (Path × Entry) :=
  let below := tree.entries.filterMap fun (location, entry) =>
    (tree.relativePath? location).map fun path => (path, entry)
  below.mergeSort fun left right => left.1.bytes.lex right.1.bytes || left.1 == right.1

/-! ### Unused names -/

/-- The names that occur in a tree, as names of entries or in the targets of links. -/
def usedNames (tree : FileTree) : List Name :=
  tree.entries.flatMap fun (location, entry) =>
    match entry with
    | .link target => location ++ target.segments
    | _ => location

/-- The name of the temporary file with a number. All these names have the same length. -/
def temporaryName (number : Nat) : Name :=
  let digits := Nat.toDigits 10 number
  Text.encode (String.ofList (".tmp-".toList ++ List.replicate (36 - digits.length) '0' ++ digits))

/-- The first name of a temporary file that does not occur in a tree. -/
def unusedName (tree : FileTree) : Name :=
  let used := tree.usedNames
  (((List.range (used.length + 1)).map temporaryName).find? fun name => !used.contains name).getD
    (temporaryName 0)

end Scaffold.FileTree
