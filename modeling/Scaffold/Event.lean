import Scaffold.Event.Severity
import Scaffold.FileTree.Fault
import Scaffold.Path
import Scaffold.Text.Quoted

/-! Events: what the operations report while they work.

An event says what happened and to what. Its severity, the topic it belongs to and its text follow
from it; `Event.written` is how a log shows it. Operations only return events; which of them are
shown is decided by a filter (`Scaffold.Event.Filter`). -/

set_option autoImplicit false

namespace Scaffold

inductive Event where
  /-- A stub was asked for by a name that could leave its directory. -/
  | rejectedStubName (stub : String)
  | loadedStub (stub : String) (path : Path) (bytes : Nat)
  | unreadableStubDirectory (root : Path) (fault : Fault)
  | compiledStub (stub : String) (tokens : Nat)
  | createdDirectory (path : Path) (mode : UInt32)
  | wroteFile (path : Path) (bytes : Nat)
  | keptFile (path : Path)
  | generatedFile (stub : String) (path : Path)
  | skippedFile (stub : String) (path : Path)
  | missingSettingsFile (path : Path)
  | loadedSettingsFile (path : Path)
deriving DecidableEq

inductive FieldValue where
  /-- A text between quotes. -/
  | quoted (text : String)
  /-- A text as it is. -/
  | bare (text : String)
  | number (value : Nat)

def FieldValue.written : FieldValue → String
  | .quoted text => Text.quoted text
  | .bare text => text
  | .number value => toString value

namespace Event

def severity : Event → Severity
  | .generatedFile _ _ => .info
  | .skippedFile _ _ => .info
  | _ => .debug

def topic : Event → String
  | .rejectedStubName _ => "stubforge_generation::templates::store"
  | .loadedStub _ _ _ => "stubforge_generation::templates::store"
  | .unreadableStubDirectory _ _ => "stubforge_generation::templates::store"
  | .compiledStub _ _ => "stubforge_generation::templates::compiler"
  | .createdDirectory _ _ => "stubforge_generation::output_writer"
  | .wroteFile _ _ => "stubforge_generation::output_writer"
  | .keptFile _ => "stubforge_generation::output_writer"
  | .generatedFile _ _ => "stubforge_generation::generator"
  | .skippedFile _ _ => "stubforge_generation::generator"
  | .missingSettingsFile _ => "stubforge_config::manager"
  | .loadedSettingsFile _ => "stubforge_config::manager"

def message : Event → String
  | .rejectedStubName _ => "Rejected stub name outside the root"
  | .loadedStub _ _ _ => "Loaded stub"
  | .unreadableStubDirectory _ _ => "Stub directory not readable"
  | .compiledStub _ _ => "Compiled stub"
  | .createdDirectory _ _ => "Created directory"
  | .wroteFile _ _ => "Wrote file"
  | .keptFile _ => "File exists, skipping"
  | .generatedFile _ _ => "Generated file"
  | .skippedFile _ _ => "Skipped existing file"
  | .missingSettingsFile _ => "No config file, using defaults"
  | .loadedSettingsFile _ => "Loaded config file"

def octal (mode : UInt32) : String := String.ofList (Nat.toDigits 8 mode.toNat)

def fields : Event → List (String × FieldValue)
  | .rejectedStubName stub => [("stub", .quoted stub)]
  | .loadedStub stub path bytes =>
      [("stub", .quoted stub), ("path", .bare path.display), ("bytes", .number bytes)]
  | .unreadableStubDirectory root fault =>
      [("root", .bare root.display), ("error", .bare fault.message)]
  | .compiledStub stub tokens => [("stub", .quoted stub), ("tokens", .number tokens)]
  | .createdDirectory path mode => [("path", .bare path.display), ("mode", .bare (octal mode))]
  | .wroteFile path bytes => [("path", .bare path.display), ("bytes", .number bytes)]
  | .keptFile path => [("path", .bare path.display)]
  | .generatedFile stub path => [("stub", .quoted stub), ("path", .bare path.display)]
  | .skippedFile stub path => [("stub", .quoted stub), ("path", .bare path.display)]
  | .missingSettingsFile path => [("path", .bare path.display)]
  | .loadedSettingsFile path => [("path", .bare path.display)]

/-- An event as a log shows it: severity, topic, message and fields. -/
def written (event : Event) : String :=
  event.fields.foldl (fun text (name, value) => text ++ " " ++ name ++ "=" ++ value.written)
    (event.severity.name ++ " " ++ event.topic ++ ": " ++ event.message)

end Event

end Scaffold
