import Scaffold.FileTree.Fault
import Scaffold.Settings.Document
import Scaffold.Settings.Mode

/-! Why settings cannot be had. -/

set_option autoImplicit false

namespace Scaffold

inductive SettingsFailure where
  | file (fault : Fault)
  | malformed
  | mismatch (problem : Mismatch)
  /-- An environment variable does not fit; `origin` tells whether the value is the variable's
  own. -/
  | variable (key : String) (found : FoundType) (expected : ExpectedType) (origin : Bool)
  | mode (text : String) (problem : NumberProblem)
  | unusable (problem : SettingsProblem)
deriving DecidableEq, Repr

/-- The description of a failure. A malformed document has none beyond its kind, and a mismatch in
a document is described by itself. -/
def SettingsFailure.message? : SettingsFailure → Option String
  | .file fault => some ("IO error: " ++ fault.message)
  | .malformed => none
  | .mismatch problem => some problem.message
  | .variable key found expected origin =>
      some ("Parse error: " ++ wrongTypeMessage found expected ++ " for key `" ++ key ++ "`" ++
        (if origin then " in the environment" else ""))
  | .mode text problem =>
      some ("Parse error: Invalid dir_mode '" ++ text ++ "': " ++ problem.message)
  | .unusable problem => some ("Validation error: " ++ problem.message)

def SettingsFailure.isInDocument : SettingsFailure → Bool
  | .malformed => true
  | .mismatch _ => true
  | _ => false

end Scaffold
