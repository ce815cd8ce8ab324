import Scaffold.Settings.Basic
import Scaffold.Toml.StringWriter

/-! Settings written as a TOML document.

The single settings come first, in a fixed order; the default tokens and the project follow as
tables. `Scaffold.Settings.Document` reads such a document back. -/

set_option autoImplicit false

namespace Scaffold

open Toml

namespace Settings

def writeText (key text : String) : List Char := writeBinding key (writeString text.toList)

def writeProject (project : Naming.Project) : List Char :=
  writeHeader "project" ++ writeText "slug" project.slug ++
    writeText "prefix" project.identifierPrefix ++ writeText "text_domain" project.textDomain ++
    writeText "namespace" project.rootNamespace

def written (settings : Settings) : String :=
  String.ofList
    (writeText "stub_dir" settings.stubDirectory ++
      writeText "base_path" settings.basePath ++
      writeBinding "overwrite" (toString settings.mayReplace).toList ++
      writeBinding "dir_mode" (Nat.toDigits 10 settings.directoryMode.toNat) ++
      writeText "log_level" settings.logLevel ++
      writeHeader "defaults" ++
      settings.defaults.bindings.flatMap (fun (name, text) => writeText name text) ++
      (settings.project.map writeProject).getD [])

end Settings

end Scaffold
