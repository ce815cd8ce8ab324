import Scaffold.FileTree.Writing
import Scaffold.Settings.Environment
import Scaffold.Settings.Written

/-! Where settings come from and where they are kept.

Settings are made of three layers: the defaults, the settings file, and the environment, each
stronger than the one before. Saving writes a settings file in place. -/

set_option autoImplicit false

namespace Scaffold

structure SettingsSource where
  file : Path
  beginning : String := "STUBFORGE"
deriving DecidableEq

namespace SettingsSource

def ofDocument (text : String) : Except SettingsFailure Settings :=
  match Toml.document? text with
  | none => .error .malformed
  | some entries =>
      match Settings.ofEntries entries with
      | .ok settings => .ok settings
      | .error problem => .error (.mismatch problem)

/-- The settings that the file gives; the defaults if there is no regular file. -/
def fileLayer (source : SettingsSource) (tree : FileTree) : Except SettingsFailure Settings :=
  if tree.isFile source.file then
    match tree.readText source.file with
    | .ok text => ofDocument text
    | .error fault => .error (.file fault)
  else .ok {}

def check (settings : Settings) : Except SettingsFailure Settings :=
  match settings.problem? with
  | some problem => .error (.unusable problem)
  | none => .ok settings

/-- Settings of the file with the environment laid over them, if they can be used. -/
def complete (source : SettingsSource) (environment : Environment.Variables)
    (fromFile : Settings) : Except SettingsFailure Settings := do
  check (← Environment.override source.beginning environment fromFile)

def load (source : SettingsSource) (environment : Environment.Variables) :
    Action SettingsFailure Settings := do
  let tree ← Action.tree
  let fromFile ← Action.ofExcept (source.fileLayer tree)
  Action.report
    (if tree.isFile source.file then .loadedSettingsFile source.file
      else .missingSettingsFile source.file)
  Action.ofExcept (source.complete environment fromFile)

def directoryMode : UInt32 := 0o777

def save (source : SettingsSource) (settings : Settings) : Action SettingsFailure Unit :=
  Action.withFailure .file do
    match source.file.parent? with
    | some parent => FileTree.makeDirectories directoryMode parent.chain
    | none => pure ()
    FileTree.writeWhole source.file settings.written.toUTF8

/-- The home directory that the environment names; `accountHome`, which the user's account has, if
it names none or an empty one. -/
def homeDirectory (environment : Environment.Variables) (accountHome : Path) : Path :=
  match (environment.lookup "HOME").map Path.ofString with
  | some home => if home.isEmpty then accountHome else home
  | none => accountHome

/-- The directory for settings of a user: the one that the environment names if it is absolute,
and else `.config` in the home directory. -/
def userDirectory (environment : Environment.Variables) (accountHome : Path) : Path :=
  match ((environment.lookup "XDG_CONFIG_HOME").map Path.ofString).filter Path.isAbsolute with
  | some directory => directory
  | none => (homeDirectory environment accountHome).join (Path.ofString ".config")

def defaultFile (environment : Environment.Variables) (accountHome : Path) : Path :=
  ((userDirectory environment accountHome).join (Path.ofString "stubforge")).join
    (Path.ofString "config.toml")

end SettingsSource

end Scaffold
