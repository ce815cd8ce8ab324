import Scaffold.Path
import Scaffold.Settings.Failure

/-! Why generation fails. -/

set_option autoImplicit false

namespace Scaffold

inductive Failure where
  | stubNotFound (stub : String)
  | stubUnreadable (stub : String) (fault : Fault)
  | destinationExists (path : Path)
  | directoryNotCreated (path : Path) (fault : Fault)
  | notWritten (path : Path) (fault : Fault)
  | settings (cause : SettingsFailure)
deriving DecidableEq

def Failure.message? : Failure → Option String
  | .stubNotFound stub => some ("Stub not found: " ++ stub)
  | .stubUnreadable stub fault => some ("Could not read stub: " ++ stub ++ ": " ++ fault.message)
  | .destinationExists path => some ("File already exists: " ++ path.display)
  | .directoryNotCreated path fault =>
      some ("Could not create directory: " ++ path.display ++ ": " ++ fault.message)
  | .notWritten path fault =>
      some ("Could not write file: " ++ path.display ++ ": " ++ fault.message)
  | .settings cause =>
      if cause.isInDocument then cause.message?
      else cause.message?.map fun text => "Configuration error: " ++ text

def Failure.path? : Failure → Option Path
  | .destinationExists path => some path
  | .directoryNotCreated path _ => some path
  | .notWritten path _ => some path
  | _ => none

end Scaffold
