import Scaffold.Toml.DateTimeReader
import Scaffold.Toml.NumberReader
import Scaffold.Toml.StringReader
import Scaffold.Toml.Table

/-! Statements of a TOML document: the text read line by line.

A statement is a table header, an array-of-tables header, or a binding of a key to a value. Nothing
is put together yet, except that a table between braces is a value and is complete. Each reader
returns what it read with the text after it. Arrays and braces nest to a fixed depth, and a dotted
key has a limited number of parts. -/

set_option autoImplicit false

namespace Scaffold.Toml

structure DottedKey where
  path : List String
  key : String
deriving Repr, DecidableEq

inductive Statement where
  /-- `[key]` -/
  | header (name : DottedKey)
  /-- `[[key]]` -/
  | arrayHeader (name : DottedKey)
  /-- `key = value` -/
  | binding (name : DottedKey) (value : Value)

/-- Least number of parts that a dotted key is refused for. -/
def keyPartLimit : Nat := 80

def nestingLimit : Nat := 79

/-- One part of a key: bare, between double quotes or between apostrophes. -/
def simpleKey? (text : List Char) : Option (String × List Char) :=
  match text with
  | [] => none
  | c :: rest =>
      if c = quoteMark then
        (basicString rest).map fun (key, after) => (String.ofList key, after)
      else if c = apostrophe then
        (literalString rest).map fun (key, after) => (String.ofList key, after)
      else if isBareKeyChar c then
        some (String.ofList (text.takeWhile isBareKeyChar), text.dropWhile isBareKeyChar)
      else none

/-- The parts of a dotted key, with blanks around each; `fuel` bounds their number. -/
def keyParts? : Nat → List Char → Option (List String × List Char)
  | 0, _ => none
  | fuel + 1, text => do
      let (part, rest) ← simpleKey? (text.dropWhile isBlank)
      match rest.dropWhile isBlank with
      | '.' :: more => do
          let (parts, after) ← keyParts? fuel more
          return (part :: parts, after)
      | after => return ([part], after)

def dottedKey? (text : List Char) : Option (DottedKey × List Char) := do
  let (parts, rest) ← keyParts? (keyPartLimit - 1) text
  let key ← parts.getLast?
  return (⟨parts.dropLast, key⟩, rest)

/-- A text without the blanks, line ends and comments that it begins with. -/
def skipTrivia : Bool → List Char → List Char
  | _, [] => []
  | inComment, c :: rest =>
      if c = '\n' then skipTrivia false rest
      else if c = '\r' ∧ rest.head? = some '\n' then skipTrivia false rest
      else if inComment then
        if isControl c then c :: rest else skipTrivia true rest
      else if isBlank c then skipTrivia false rest
      else if c = '#' then skipTrivia true rest
      else c :: rest

/-- The items of an array and its closing bracket; `fuel` bounds their number. -/
def arrayItems? (item? : List Char → Option (Value × List Char)) :
    Nat → List Char → Option (List Value × List Char)
  | 0, _ => none
  | fuel + 1, text =>
      match skipTrivia false text with
      | ']' :: after => some ([], after)
      | next => do
          let (item, rest) ← item? next
          match skipTrivia false rest with
          | ',' :: more => do
              let (items, after) ← arrayItems? item? fuel more
              return (item :: items, after)
          | ']' :: after => return ([item], after)
          | _ => none

/-- The bindings between braces and the closing brace, at least one; `fuel` bounds their
number. -/
def braceBindings? (value? : List Char → Option (Value × List Char)) :
    Nat → List Char → Option (List (DottedKey × Value) × List Char)
  | 0, _ => none
  | fuel + 1, text => do
      let (name, rest) ← dottedKey? text
      let valueText ← after? '=' rest
      let (value, rest) ← value? (valueText.dropWhile isBlank)
      match rest.dropWhile isBlank with
      | ',' :: more => do
          let (bindings, after) ← braceBindings? value? fuel more
          return ((name, value) :: bindings, after)
      | '\x7d' :: after => return ([(name, value)], after)
      | _ => none

def inlineTable? (value? : List Char → Option (Value × List Char)) (text : List Char) :
    Option (Value × List Char) :=
  match text.dropWhile isBlank with
  | '\x7d' :: after => some (.table .inline [], after)
  | next => do
      let (bindings, after) ← braceBindings? value? next.length next
      let entries ← bindings.foldlM
        (fun entries (name, value) => bind? name.path name.key value .inline entries) []
      return (.table .inline entries, after)

def boolean? (text : List Char) : Option (Value × List Char) :=
  if text.take 4 = ['t', 'r', 'u', 'e'] then some (.boolean true, text.drop 4)
  else if text.take 5 = ['f', 'a', 'l', 's', 'e'] then some (.boolean false, text.drop 5)
  else none

/-- A value in which arrays and braces nest at most to the given depth. -/
def value? : Nat → List Char → Option (Value × List Char)
  | depth, text =>
      match text with
      | [] => none
      | c :: rest =>
          if c = quoteMark ∨ c = apostrophe then
            (string? text).map fun (content, after) => (.string content, after)
          else if c = '[' then
            match depth with
            | 0 => none
            | inner + 1 =>
                (arrayItems? (value? inner) text.length rest).map fun (items, after) =>
                  (.array false items, after)
          else if c = '\x7b' then
            match depth with
            | 0 => none
            | inner + 1 => inlineTable? (value? inner) rest
          else if c = 't' ∨ c = 'f' then boolean? text
          else (dateTime? text).or (number? text)

/-- The text after the end of a line, with a comment before it or without; the end of the text
ends a line too. -/
def restOfLine? (text : List Char) : Option (List Char) :=
  let trimmed := text.dropWhile isBlank
  let ending := if trimmed.head? = some '#' then trimmed.dropWhile (!isControl ·) else trimmed
  if ending = [] then some [] else lineEnd? ending

def header? (text : List Char) : Option (Statement × List Char) :=
  match text with
  | '[' :: '[' :: rest => do
      let (name, after) ← dottedKey? rest
      return (.arrayHeader name, ← after? ']' (← after? ']' after))
  | '[' :: rest => do
      let (name, after) ← dottedKey? rest
      return (.header name, ← after? ']' after)
  | _ => none

def binding? (text : List Char) : Option (Statement × List Char) := do
  let (name, rest) ← dottedKey? text
  let valueText ← after? '=' rest
  let (value, after) ← value? nestingLimit (valueText.dropWhile isBlank)
  return (.binding name value, after)

/-- The statements of a text; `fuel` bounds the number of its lines. -/
def statementsWithin? : Nat → List Char → Option (List Statement)
  | 0, _ => none
  | fuel + 1, text =>
      match text.dropWhile isBlank with
      | [] => some []
      | c :: rest =>
          if c = '#' ∨ c = '\n' ∨ c = '\r' then do
            statementsWithin? fuel (← restOfLine? (c :: rest))
          else do
            let (statement, after) ← if c = '[' then header? (c :: rest) else binding? (c :: rest)
            let statements ← statementsWithin? fuel (← restOfLine? after)
            return statement :: statements

/-- The statements of a text; a byte-order mark in front does not count. -/
def statements? (text : List Char) : Option (List Statement) :=
  let unmarked := match text with
    | '\uFEFF' :: rest => rest
    | _ => text
  statementsWithin? (unmarked.length + 1) unmarked

end Scaffold.Toml
