import Scaffold.Action

/-! Making directories and writing files.

These are the sequences of steps that writing operations are made of. `makeDirectories` makes the
directory of a path and those above it that are missing, the outermost first. `writeWhole` writes
in place: it goes through links and empties the file before it fills it. `replaceWhole` never shows
a part of the content: it fills a temporary file beside the destination and renames it. -/

set_option autoImplicit false

namespace Scaffold

namespace Path

/-- A path and the paths of the directories around it, as they are written, the innermost first.
The empty path, which names nothing, is not among them; `depth` bounds their number. -/
def ancestors : Nat → Path → List Path
  | 0, _ => []
  | depth + 1, path =>
      if path.isEmpty then []
      else path :: (path.parent?.map (ancestors depth)).getD []

def chain (path : Path) : List Path := ancestors path.bytes.length path

end Path

namespace FileTree

def ensureDirectory (path : Path) (mode : UInt32) : Action Fault Unit := do
  match (← Action.tree).makeDirectory? path mode with
  | .ok step => Action.perform step
  | .error cause => unless (← Action.tree).isDirectory path do throw cause

/-- Make the first of a chain of directories, and before it those of the rest that are missing. -/
def makeDirectories (mode : UInt32) : List Path → Action Fault Unit
  | [] => pure ()
  | path :: outer => do
      match (← Action.tree).makeDirectory? path mode with
      | .ok step => Action.perform step
      | .error .notFound =>
          makeDirectories mode outer
          ensureDirectory path mode
      | .error cause => unless (← Action.tree).isDirectory path do throw cause

/-- Write the whole content of the file at a path, which is made or emptied first. A content that is
too large for a file is written as far as it goes. -/
def writeWhole (path : Path) (content : ByteArray) : Action Fault Unit := do
  let tree ← Action.tree
  let (location, step) ← Action.ofExcept (tree.createFile? path)
  Action.perform step
  Action.perform (.append location (tree.limits.part content))
  unless tree.limits.holds content do throw .fileTooLarge

def renameFile (source destination : Path) : Action Fault Unit := do
  let step ← Action.ofExcept ((← Action.tree).rename? source destination)
  Action.perform step

def discard {ε : Type} (path : Path) : Action ε Unit := do
  match (← Action.tree).unlink? path with
  | .ok step => Action.perform step
  | .error _ => pure ()

/-- Put a file with the given content in place of what is at a path, by way of a file called
`temporary` beside it. If that fails the temporary file is removed. -/
def replaceWhole (temporary : Name) (path : Path) (content : ByteArray) : Action Fault Unit := do
  let aside := path.withFileName temporary
  tryCatch
    (do
      writeWhole aside content
      renameFile aside path)
    fun cause => do
      discard aside
      throw cause

end FileTree

end Scaffold
