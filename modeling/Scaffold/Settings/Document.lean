import Scaffold.Settings.Basic
import Scaffold.Text.Quoted
import Scaffold.Toml.Document

/-! Settings read from a TOML document.

A setting that the document leaves out has its default, and keys that are no settings do not count.
Every other value has to have the type of its setting; the first one that has not decides what is
wrong. A project may be given as a table, or as an array of its fields in order. -/

set_option autoImplicit false

namespace Scaffold

open Toml

inductive FoundType where
  | string (text : String)
  | integer (value : Int)
  | float (value : Number.Binary64)
  | boolean (value : Bool)
  | sequence
  | map
deriving DecidableEq, Repr

inductive ExpectedType where
  | boolean
  | word32
  | string
  | path
  | map
  | project
deriving DecidableEq, Repr

inductive Mismatch where
  | wrongType (found : FoundType) (expected : ExpectedType)
  | outOfRange (value : Int)
  /-- It is an array with too few fields of a project. -/
  | tooShort (length : Nat)
  /-- It is a table without one of the fields of a project. -/
  | missingField (name : String)
deriving DecidableEq, Repr

def FoundType.message : FoundType → String
  | .string text => "string " ++ Text.quoted text
  | .integer value => "integer `" ++ toString value ++ "`"
  | .float value => "floating point `" ++ value.positional ++ "`"
  | .boolean value => "boolean `" ++ toString value ++ "`"
  | .sequence => "sequence"
  | .map => "map"

def ExpectedType.message : ExpectedType → String
  | .boolean => "a boolean"
  | .word32 => "u32"
  | .string => "a string"
  | .path => "path string"
  | .map => "a map"
  | .project => "struct ProjectContext"

def wrongTypeMessage (found : FoundType) (expected : ExpectedType) : String :=
  "invalid type: " ++ found.message ++ ", expected " ++ expected.message

def Mismatch.message : Mismatch → String
  | .wrongType found expected => wrongTypeMessage found expected
  | .outOfRange value =>
      "invalid value: " ++ (FoundType.integer value).message ++ ", expected " ++
        ExpectedType.word32.message
  | .tooShort length =>
      "invalid length " ++ toString length ++ ", expected " ++ ExpectedType.project.message ++
        " with 4 elements"
  | .missingField name => "missing field `" ++ name ++ "`"

namespace Toml

def Value.foundType : Value → FoundType
  | .string text => .string text
  | .integer value => .integer value
  | .float value => .float value
  | .boolean value => .boolean value
  | .dateTime _ => .map
  | .array _ _ => .sequence
  | .table _ _ => .map

def dateTimeKey : String := "$__toml_private_datetime"

def Value.entries? : Value → Option Entries
  | .table _ entries => some entries
  | .dateTime text => some [(dateTimeKey, .string text)]
  | _ => none

end Toml

namespace Settings

/-- A string, or a path, which is a string with another description. -/
def readText (expected : ExpectedType) : Value → Except Mismatch String
  | .string text => .ok text
  | value => .error (.wrongType value.foundType expected)

def readBoolean : Value → Except Mismatch Bool
  | .boolean value => .ok value
  | value => .error (.wrongType value.foundType .boolean)

def readWord : Value → Except Mismatch UInt32
  | .integer value =>
      if 0 ≤ value ∧ value < UInt32.size then .ok (UInt32.ofNat value.toNat)
      else .error (.outOfRange value)
  | value => .error (.wrongType value.foundType .word32)

def readTokens (value : Value) : Except Mismatch Tokens :=
  match value.entries? with
  | none => .error (.wrongType value.foundType .map)
  | some entries =>
      entries.foldlM (fun tokens (name, entry) => do
        return tokens.insert name (← readText .string entry)) Tokens.empty

def projectFields : List String := ["slug", "prefix", "text_domain", "namespace"]

/-- The strings bound to the fields of a project; other keys do not count. -/
def readProjectEntries (entries : Entries) : Except Mismatch Tokens :=
  entries.foldlM (fun fields (key, entry) => do
    if key ∈ projectFields then return fields.insert key (← readText .string entry)
    else return fields) Tokens.empty

def requireField (fields : Tokens) (name : String) : Except Mismatch String :=
  match fields.get? name with
  | some text => .ok text
  | none => .error (.missingField name)

def requireItem (items : List Value) (index : Nat) : Except Mismatch String :=
  match items[index]? with
  | some item => readText .string item
  | none => .error (.tooShort index)

def readProject (value : Value) : Except Mismatch Naming.Project :=
  match value with
  | .array _ items => do
      return ⟨← requireItem items 0, ← requireItem items 1, ← requireItem items 2,
        ← requireItem items 3⟩
  | _ =>
      match value.entries? with
      | none => .error (.wrongType value.foundType .project)
      | some entries => do
          let fields ← readProjectEntries entries
          return ⟨← requireField fields "slug", ← requireField fields "prefix",
            ← requireField fields "text_domain", ← requireField fields "namespace"⟩

/-- Settings after one more entry of a document. -/
def readEntry (settings : Settings) (entry : String × Value) : Except Mismatch Settings :=
  match entry.1 with
  | "stub_dir" => do return { settings with stubDirectory := ← readText .path entry.2 }
  | "base_path" => do return { settings with basePath := ← readText .path entry.2 }
  | "overwrite" => do return { settings with mayReplace := ← readBoolean entry.2 }
  | "dir_mode" => do return { settings with directoryMode := ← readWord entry.2 }
  | "log_level" => do return { settings with logLevel := ← readText .string entry.2 }
  | "defaults" => do return { settings with defaults := ← readTokens entry.2 }
  | "project" => do return { settings with project := some (← readProject entry.2) }
  | _ => .ok settings

def ofEntries (entries : Entries) : Except Mismatch Settings := entries.foldlM readEntry {}

end Settings

end Scaffold
