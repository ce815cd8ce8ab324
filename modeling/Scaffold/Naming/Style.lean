import Scaffold.Naming.Words

/-! Naming conventions: one name written in the style of a class, a variable, a slug, and so on.

The capitalizing styles change the first letter of each word only and leave the other letters as
they were given, so `myTHING` becomes `MyTHING`; the joined styles rebuild the name from its words
in lower case. All case changes are those of ASCII letters; every other character stays. -/

set_option autoImplicit false

namespace Scaffold.Naming

/-- Capitalize the first character of each word. Separators end a word and are dropped, breaks end
a word and are kept; `atStart` says whether the first character begins a word. -/
def capitalizeWords (isSeparator isBreak : Char → Bool) (atStart : Bool) : List Char → List Char
  | [] => []
  | c :: rest =>
      if isSeparator c then capitalizeWords isSeparator isBreak true rest
      else if isBreak c then c :: capitalizeWords isSeparator isBreak true rest
      else (if atStart then c.toUpper else c) :: capitalizeWords isSeparator isBreak false rest

def isNameSeparator (c : Char) : Bool := c == '-' || c == '_' || c == ' '

/-- White space that begins a new word and stays in the name: tab, line feed, vertical tab, form
feed and carriage return. -/
def isNameBreak (c : Char) : Bool := 9 ≤ c.toNat && c.toNat ≤ 13

def lowerFirst : List Char → List Char
  | [] => []
  | c :: rest => c.toLower :: rest

/-- `my-thing`, `my_thing` and `my thing` become `MyThing`. -/
def classStyle (name : List Char) : List Char :=
  capitalizeWords isNameSeparator isNameBreak true name

/-- The class style with its first character lowered: `myThing`. -/
def variableStyle (name : List Char) : List Char := lowerFirst (classStyle name)

/-- Capitals after hyphens only: `my-plugin_x` becomes `MyPlugin_x`. -/
def slugStyle (slug : List Char) : List Char :=
  capitalizeWords (· == '-') (fun _ => false) true slug

def joinedStyle (separator : Char) (name : List Char) : List Char :=
  [separator].intercalate ((words name).map fun word => word.map Char.toLower)

inductive Style where
  | verbatim
  /-- `MyThing` -/
  | classLike
  /-- `myThing` -/
  | variableLike
  /-- `MyThing`, with hyphens as the only separators. -/
  | slugLike
  /-- `my_thing` -/
  | snake
  /-- `my-thing` -/
  | kebab
deriving DecidableEq, Repr

def Style.apply (style : Style) (name : String) : String :=
  match style with
  | .verbatim => name
  | .classLike => String.ofList (classStyle name.toList)
  | .variableLike => String.ofList (variableStyle name.toList)
  | .slugLike => String.ofList (slugStyle name.toList)
  | .snake => String.ofList (joinedStyle '_' name.toList)
  | .kebab => String.ofList (joinedStyle '-' name.toList)

end Scaffold.Naming
