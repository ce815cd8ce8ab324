import Scaffold.Failure
import Scaffold.FileTree.Writing
import Scaffold.Settings.Basic

/-! Output: writing generated files under a policy.

A write first looks whether anything is at the destination, which matters unless replacing is
allowed; then it makes the directories that are missing; then it puts the file in place as a whole.
The name of the temporary file is given by the caller, who answers for its being unused. -/

set_option autoImplicit false

namespace Scaffold

structure WritePolicy where
  mayReplace : Bool := false
  directoryMode : UInt32 := defaultDirectoryMode
deriving DecidableEq

namespace WritePolicy

def ofSettings (settings : Settings) : WritePolicy :=
  ⟨settings.mayReplace, settings.directoryMode⟩

/-- Make the directory at a path, and those around it, unless it is there. A failure does not count
if the directory is there all the same, made by someone else in the meantime. -/
def prepareDirectory (policy : WritePolicy) (path : Path) : Action Failure Unit := do
  if (← Action.tree).isDirectory path then return
  tryCatch
    (do
      Action.withFailure (.directoryNotCreated path)
        (FileTree.makeDirectories policy.directoryMode path.chain)
      Action.report (.createdDirectory path policy.directoryMode))
    fun cause => do
      unless (← Action.tree).isDirectory path do throw cause

/-- Write a file. It is refused if something is at the path and replacing is not allowed. -/
def write (policy : WritePolicy) (temporary : Name) (path : Path) (content : String) :
    Action Failure Unit := do
  if !policy.mayReplace && (← Action.tree).exists? path then
    throw (.destinationExists path)
  match path.parent? with
  | some parent => unless parent.isEmpty do policy.prepareDirectory parent
  | none => pure ()
  Action.withFailure (.notWritten path)
    (FileTree.replaceWhole temporary path content.toUTF8)
  Action.report (.wroteFile path content.utf8ByteSize)

/-- Write a file unless something is at the path; tells whether it was written. -/
def writeNew (policy : WritePolicy) (temporary : Name) (path : Path) (content : String) :
    Action Failure Bool := do
  if (← Action.tree).exists? path then
    Action.report (.keptFile path)
    return false
  policy.write temporary path content
  return true

end WritePolicy

end Scaffold
