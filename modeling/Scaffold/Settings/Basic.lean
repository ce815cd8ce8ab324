import Scaffold.Naming.Tokens

/-! Settings of a generation run.

Every setting has a default. Settings are usable if a stub directory is named and the directory
mode has permission bits only; `problem?` tells what is wrong otherwise. -/

set_option autoImplicit false

namespace Scaffold

def defaultDirectoryMode : UInt32 := 0o755

def greatestMode : UInt32 := 0o7777

structure Settings where
  stubDirectory : String := "stubs"
  basePath : String := "."
  mayReplace : Bool := false
  directoryMode : UInt32 := defaultDirectoryMode
  logLevel : String := "info"
  defaults : Tokens := ∅
  project : Option Naming.Project := none
deriving DecidableEq

inductive SettingsProblem where
  | noStubDirectory
  | invalidMode (mode : UInt32)
deriving DecidableEq, Repr

def SettingsProblem.message : SettingsProblem → String
  | .noStubDirectory => "stub_dir must not be empty"
  | .invalidMode mode =>
      "dir_mode " ++ String.ofList (Nat.toDigits 8 mode.toNat) ++ " is not a valid permission mode"

def Settings.problem? (settings : Settings) : Option SettingsProblem :=
  if settings.stubDirectory = "" then some .noStubDirectory
  else if greatestMode < settings.directoryMode then some (.invalidMode settings.directoryMode)
  else none

end Scaffold
