import Scaffold.Settings.Failure
import Scaffold.Unicode.LowerCase

/-! Settings from environment variables.

A variable belongs to a setting if its name in lower case is the given name in lower case, an
underscore and the key of the setting. A key may be continued by dots and brackets; then it stands
for a map or a sequence of that name, which no setting takes. Values are texts: a truth value is
one of a few words, a directory mode is read as a mode, and other settings take the text as it
is. -/

set_option autoImplicit false

namespace Scaffold

/-- What variables make of a key. -/
inductive VariableShape where
  | text (value : String)
  /-- A map, from names continued by a dot. -/
  | map
  /-- A sequence, from names continued by a bracket. -/
  | sequence
deriving DecidableEq, Repr

namespace Environment

abbrev Variables := List (String × String)

def isPartChar (c : Char) : Bool := c.isAlphanum || c == ' ' || c == '_' || c == '-'

def isIndexBlank (c : Char) : Bool := c == ' ' || c == '\t'

def decimal (digits : List Char) : Nat :=
  digits.foldl (fun value c => 10 * value + (c.toNat - '0'.toNat)) 0

def index? (text : List Char) : Option (List Char) :=
  let spaced := text.dropWhile isIndexBlank
  let isNegative := spaced.head? = some '-'
  let number := if isNegative then spaced.drop 1 else spaced
  let digits := number.takeWhile Char.isDigit
  let bound := if isNegative then 0x8000000000000000 else 0x7FFFFFFFFFFFFFFF
  if !digits.isEmpty && decimal digits ≤ bound then
    match (number.dropWhile Char.isDigit).dropWhile isIndexBlank with
    | ']' :: rest => some rest
    | _ => none
  else none

/-- Whether a text continues a key to its end with parts after dots and indices in brackets;
`fuel` bounds their number. -/
def isContinuation : Nat → List Char → Bool
  | 0, text => text.isEmpty
  | fuel + 1, text =>
      match text with
      | [] => true
      | '.' :: rest =>
          (rest.head?.map isPartChar).getD false &&
            isContinuation fuel (rest.dropWhile isPartChar)
      | '[' :: rest =>
          match index? rest with
          | some after => isContinuation fuel after
          | none => false
      | _ => false

/-- The key that the rest of a variable's name stands for, and what the variable makes of it. -/
def shape (name value : String) : String × VariableShape :=
  let key := String.ofList (name.toList.takeWhile isPartChar)
  let continuation := name.toList.dropWhile isPartChar
  if isContinuation continuation.length continuation then
    match continuation with
    | '.' :: _ => (key, .map)
    | '[' :: _ => (key, .sequence)
    | _ => (key, .text value)
  else (name, .text value)

/-- The rest of a variable's name in lower case, after a beginning and an underscore. -/
def settingName? (beginning name : String) : Option String :=
  let expected := Unicode.lower (beginning ++ "_")
  let given := Unicode.lower name
  if expected.toList.isPrefixOf given.toList then
    some (String.ofList (given.toList.drop expected.toList.length))
  else none

/-- What the variables make of a key; of several the last counts. -/
def find? (beginning : String) (environment : Variables) (key : String) : Option VariableShape :=
  environment.foldl (fun found (name, value) =>
    match settingName? beginning name with
    | some rest => if (shape rest value).1 = key then some (shape rest value).2 else found
    | none => found) none

def text? (beginning : String) (environment : Variables) (key : String) :
    Except SettingsFailure (Option String) :=
  match find? beginning environment key with
  | none => .ok none
  | some (.text value) => .ok (some value)
  | some .map => .error (.variable key .map .string false)
  | some .sequence => .error (.variable key .sequence .string false)

def truth? (word : String) : Option Bool :=
  match word with
  | "1" => some true
  | "true" => some true
  | "on" => some true
  | "yes" => some true
  | "0" => some false
  | "false" => some false
  | "off" => some false
  | "no" => some false
  | _ => none

/-- The truth value of a setting; the word for it may have capitals. -/
def boolean? (beginning : String) (environment : Variables) (key : String) :
    Except SettingsFailure (Option Bool) :=
  match find? beginning environment key with
  | none => .ok none
  | some (.text value) =>
      match truth? (Unicode.lower value) with
      | some truth => .ok (some truth)
      | none => .error (.variable key (.string (Unicode.lower value)) .boolean true)
  | some .map => .error (.variable key .map .boolean false)
  | some .sequence => .error (.variable key .sequence .boolean false)

def mode? (beginning : String) (environment : Variables) (key : String) :
    Except SettingsFailure (Option UInt32) := do
  match ← text? beginning environment key with
  | none => return none
  | some text =>
      match Mode.read text with
      | .ok mode => return some mode
      | .error (trimmed, problem) => throw (.mode trimmed problem)

def override (beginning : String) (environment : Variables) (settings : Settings) :
    Except SettingsFailure Settings := do
  let stubDirectory ← text? beginning environment "stub_dir"
  let basePath ← text? beginning environment "base_path"
  let mayReplace ← boolean? beginning environment "overwrite"
  let directoryMode ← mode? beginning environment "dir_mode"
  let logLevel ← text? beginning environment "log_level"
  return { settings with
    stubDirectory := stubDirectory.getD settings.stubDirectory
    basePath := basePath.getD settings.basePath
    mayReplace := mayReplace.getD settings.mayReplace
    directoryMode := directoryMode.getD settings.directoryMode
    logLevel := logLevel.getD settings.logLevel }

end Environment

end Scaffold
