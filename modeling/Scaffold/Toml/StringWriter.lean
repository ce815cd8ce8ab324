import Scaffold.Toml.Character

/-! Writing TOML strings and keys.

A string takes the first form in which it can stand as it is: basic, literal, multi-line basic,
multi-line literal. If there is none, its characters are escaped, in the multi-line form if it has
several lines. A tab is escaped in the basic forms, but does not count as a control code. The
multi-line forms begin with a line end, which reading drops, if the string has several lines. A key
is written bare, basic, literal or escaped, on one line. -/

set_option autoImplicit false

namespace Scaffold.Toml

inductive StringForm where
  | basic
  | literal
  | multilineBasic
  | multilineLiteral
deriving DecidableEq, Repr

def StringForm.hasEscapes : StringForm → Bool
  | .basic => true
  | .multilineBasic => true
  | _ => false

def StringForm.isMultiline : StringForm → Bool
  | .multilineBasic => true
  | .multilineLiteral => true
  | _ => false

def StringForm.quotes : StringForm → List Char
  | .basic => [quoteMark]
  | .literal => [apostrophe]
  | .multilineBasic => [quoteMark, quoteMark, quoteMark]
  | .multilineLiteral => [apostrophe, apostrophe, apostrophe]

/-- Length of the longest row of a character in a text, of which `count` end right before it. -/
def longestRun (c : Char) (count : Nat) : List Char → Nat
  | [] => count
  | first :: rest =>
      if first = c then longestRun c (count + 1) rest else max count (longestRun c 0 rest)

def isInnerControl (c : Char) : Bool := isControl c && c != '\n'

/-- Whether a text can stand in a form without escapes, tabs apart. -/
def fits (text : List Char) : StringForm → Bool
  | .basic => !text.any fun c => c == quoteMark || c == '\\' || isControl c
  | .literal => !text.any fun c => c == apostrophe || isControl c
  | .multilineBasic =>
      !(text.any fun c => c == '\\' || isInnerControl c) && longestRun quoteMark 0 text ≤ 2
  | .multilineLiteral => !text.any isInnerControl && longestRun apostrophe 0 text ≤ 2

def chooseForm (text : List Char) : StringForm :=
  if fits text .basic then .basic
  else if fits text .literal then .literal
  else if fits text .multilineBasic then .multilineBasic
  else if fits text .multilineLiteral then .multilineLiteral
  else if text.contains '\n' then .multilineBasic
  else .basic

def codePointEscape (c : Char) : List Char :=
  let digits := (Nat.toDigits 16 c.toNat).map Char.toUpper
  '\\' :: 'u' :: List.replicate (4 - digits.length) '0' ++ digits

/-- A character in an escaped form that is no double quote and no line end of a multi-line
string. -/
def escapedChar (c : Char) : List Char :=
  if c = '\x08' then ['\\', 'b']
  else if c = '\t' then ['\\', 't']
  else if c = '\n' then ['\\', 'n']
  else if c = '\x0C' then ['\\', 'f']
  else if c = '\r' then ['\\', 'r']
  else if c = '\\' then ['\\', '\\']
  else if isControl c then codePointEscape c
  else [c]

/-- A text with escapes. Of double quotes in a row, `allowed` stand by themselves before one is
escaped; `count` of them end right before the text. -/
def escaped (multiline : Bool) (allowed count : Nat) : List Char → List Char
  | [] => []
  | c :: rest =>
      if c = quoteMark then
        if count < allowed then c :: escaped multiline allowed (count + 1) rest
        else '\\' :: c :: escaped multiline allowed 0 rest
      else if multiline && c == '\n' then c :: escaped multiline allowed 0 rest
      else escapedChar c ++ escaped multiline allowed 0 rest

def writeInForm (form : StringForm) (text : List Char) : List Char :=
  let lead := if form.isMultiline && text.contains '\n' then ['\n'] else []
  let body :=
    if form.hasEscapes then escaped form.isMultiline (if form.isMultiline then 2 else 0) 0 text
    else text
  form.quotes ++ lead ++ body ++ form.quotes

def writeString (text : List Char) : List Char := writeInForm (chooseForm text) text

def isBareKey (key : List Char) : Bool := !key.isEmpty && key.all isBareKeyChar

def writeKey (key : List Char) : List Char :=
  if isBareKey key then key
  else if fits key .basic then writeInForm .basic key
  else if fits key .literal then writeInForm .literal key
  else writeInForm .basic key

def writeBinding (key : String) (written : List Char) : List Char :=
  writeKey key.toList ++ [' ', '=', ' '] ++ written ++ ['\n']

def writeHeader (key : String) : List Char := '\n' :: '[' :: writeKey key.toList ++ [']', '\n']

end Scaffold.Toml
