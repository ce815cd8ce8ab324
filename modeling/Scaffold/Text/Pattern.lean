import Scaffold.Unicode.Alphanumeric
import Scaffold.Unicode.WhiteSpace

/-! Patterns: which texts are regular expressions.

Only the form of a pattern is decided here, not what it matches. A pattern has alternatives, groups
with or without a name, switches, classes with set operations, escapes, and the repetitions `?`,
`*` and `+`; a repetition between braces is not among them. What a pattern may hold also depends on
the switches `u` and `i`. Characters are Unicode characters unless `u` is switched off. Then
shorthand classes such as `\d` and the ASCII word boundary are understood, but nothing that could
match a part of a character. While `u` is on, no tables of scripts and letter cases are at hand, so
shorthand classes, properties, word boundaries and, under `i`, all single characters are refused.
Last, a pattern is refused if it is too high: groups, classes, repetitions, sequences and
alternatives all raise what is in them by one. -/

set_option autoImplicit false

namespace Scaffold.Text.Pattern

/-- How a pattern is to be understood at some place. -/
structure Mode where
  ignoresCase : Bool := false
  unicode : Bool := true
  spaced : Bool := false
deriving DecidableEq, Repr

def dropBlanks : Bool → List Char → List Char
  | _, [] => []
  | inComment, c :: rest =>
      if inComment then dropBlanks (c ≠ '\n') rest
      else if Unicode.isWhiteSpace c then dropBlanks false rest
      else if c = '#' then dropBlanks true rest
      else c :: rest

namespace Mode

def next (mode : Mode) (text : List Char) : List Char :=
  if mode.spaced then dropBlanks false text else text

def admitsCharacters (mode : Mode) : Bool := !(mode.ignoresCase && mode.unicode)

def admitsInClass (mode : Mode) (c : Char) : Bool :=
  mode.admitsCharacters && (mode.unicode || c.toNat < 0x80)

def setting (written : List Char) (letter : Char) (before : Bool) : Bool :=
  if letter ∈ written.takeWhile (· ≠ '-') then true
  else if letter ∈ written then false
  else before

/-- The mode after some switches. No switch is given twice, and the minus is not the last. -/
def switch? (mode : Mode) (written : List Char) : Option Mode :=
  if written.all (· ∈ "imsUuRx-".toList) && decide written.Nodup && written.getLast? ≠ some '-' then
    some
      { ignoresCase := setting written 'i' mode.ignoresCase
        unicode := setting written 'u' mode.unicode
        spaced := setting written 'x' mode.spaced }
  else none

end Mode

/-- What a backslash and the characters after it stand for. -/
inductive Escape where
  /-- One character; `isByte` if it is given by two hexadecimal digits. -/
  | character (c : Char) (isByte : Bool)
  | shorthand (negated : Bool)
  | boundary
  | anchor
deriving DecidableEq, Repr

def hexDigit? (c : Char) : Option Nat :=
  if c.isDigit then some (c.toNat - '0'.toNat)
  else if 'a' ≤ c ∧ c ≤ 'f' then some (c.toNat - 'a'.toNat + 10)
  else if 'A' ≤ c ∧ c ≤ 'F' then some (c.toNat - 'A'.toNat + 10)
  else none

/-- The number that some more hexadecimal digits make of `value`. -/
def hexDigits? (mode : Mode) : Nat → Nat → List Char → Option (Nat × List Char)
  | 0, value, text => some (value, mode.next text)
  | count + 1, value, text =>
      match mode.next text with
      | [] => none
      | c :: rest => do hexDigits? mode count (16 * value + (← hexDigit? c)) rest

def hexCharacter? (mode : Mode) (count : Nat) (text : List Char) : Option (Escape × List Char) := do
  let (value, rest) ← hexDigits? mode count 0 text
  if value.isValidChar then some (.character (Char.ofNat value) (count == 2), rest) else none

def control? (c : Char) : Option Char :=
  match c with
  | 'a' => some '\x07'
  | 'f' => some '\x0c'
  | 't' => some '\t'
  | 'n' => some '\n'
  | 'r' => some '\r'
  | 'v' => some '\x0b'
  | _ => none

def escape? (mode : Mode) (text : List Char) : Option (Escape × List Char) :=
  match text with
  | [] => none
  | c :: rest =>
      if c = 'x' then hexCharacter? mode 2 rest
      else if c = 'u' then hexCharacter? mode 4 rest
      else if c = 'U' then hexCharacter? mode 8 rest
      else if c ∈ ['d', 's', 'w'] then some (.shorthand false, rest)
      else if c ∈ ['D', 'S', 'W'] then some (.shorthand true, rest)
      else if c ∈ ['A', 'z'] then some (.anchor, rest)
      else if c ∈ ['b', 'B', '<', '>'] then some (.boundary, rest)
      else
        match control? c with
        | some control => some (.character control false, rest)
        | none =>
            if c.toNat < 0x80 && !c.isAlphanum then some (.character c false, rest) else none

def Escape.isAdmitted (mode : Mode) : Escape → Bool
  | .character c isByte =>
      mode.admitsCharacters && (mode.unicode || !isByte || c.toNat < 0x80)
  | .shorthand negated => !mode.unicode && !negated
  | .boundary => !mode.unicode
  | .anchor => true

def classItem? (mode : Mode) (text : List Char) : Option (Escape × List Char) :=
  match text with
  | [] => none
  | '\\' :: rest => escape? mode rest
  | c :: rest => some (.character c false, rest)

/-- An item of a class or a range of characters. A minus before the closing bracket, or before
another minus, makes no range. -/
def classRange? (mode : Mode) (text : List Char) : Option (List Char) := do
  let (item, rest) ← classItem? mode text
  let isRange :=
    match mode.next rest with
    | '-' :: more =>
        match mode.next more with
        | ']' :: _ => false
        | '-' :: _ => false
        | _ => true
    | _ => false
  if isRange then
    let (last, after) ← classItem? mode (mode.next ((mode.next rest).drop 1))
    match item, last with
    | .character low _, .character high _ =>
        if mode.admitsInClass low && mode.admitsInClass high && decide (low ≤ high) then some after
        else none
    | _, _ => none
  else
    match item with
    | .character c _ => if mode.admitsInClass c then some rest else none
    | .shorthand negated => if mode.unicode || negated then none else some rest
    | _ => none

def asciiClassNames : List String :=
  ["alnum", "alpha", "ascii", "blank", "cntrl", "digit", "graph", "lower", "print", "punct",
   "space", "upper", "word", "xdigit"]

/-- An ASCII class between colons, after its opening bracket: whether it is negated, and what
follows its closing bracket. -/
def asciiClass? (text : List Char) : Option (Bool × List Char) :=
  match text with
  | ':' :: inner =>
      let negated := inner.head? = some '^'
      let written := if negated then inner.drop 1 else inner
      match written.dropWhile (· ≠ ':') with
      | ':' :: ']' :: after =>
          if String.ofList (written.takeWhile (· ≠ ':')) ∈ asciiClassNames then
            some (negated, after)
          else none
      | _ => none
  | _ => none

def combinedHeight (parts : List Nat) : Nat :=
  match parts with
  | [] => 0
  | [height] => height
  | first :: rest => rest.foldl max first + 1

structure OpenClass where
  /-- The heights of the items since the last set operation. -/
  items : List Nat := []
  /-- The height of what stands before that operation, if there is one. -/
  operand : Option Nat := none

namespace OpenClass

def height (opened : OpenClass) : Nat :=
  match opened.operand with
  | none => combinedHeight opened.items
  | some operand => max operand (combinedHeight opened.items) + 1

def add (opened : OpenClass) (height : Nat) : OpenClass :=
  { opened with items := height :: opened.items }

def operate (opened : OpenClass) : OpenClass := { operand := some opened.height }

end OpenClass

/-- A class after its opening bracket, a sign of negation, and those items that have another
meaning elsewhere: any number of minus signs, or else a closing bracket. -/
def openClass? (mode : Mode) (text : List Char) : Option (OpenClass × List Char) :=
  let inner :=
    match mode.next text with
    | '^' :: rest => mode.next rest
    | rest => rest
  if (mode.next text).head? = some '^' && !mode.unicode then none
  else
    match inner with
    | '-' :: _ => if mode.admitsInClass '-' then some (minusSigns {} inner) else none
    | ']' :: rest => if mode.admitsInClass ']' then some (({} : OpenClass).add 0, rest) else none
    | rest => some ({}, rest)
where
  /-- A class with the minus signs that a text begins with, blanks among them left out. -/
  minusSigns (opened : OpenClass) : List Char → OpenClass × List Char
    | [] => (opened, [])
    | c :: rest =>
        if c = '-' then minusSigns (opened.add 0) rest
        else if mode.spaced && Unicode.isWhiteSpace c then minusSigns opened rest
        else (opened, c :: rest)

/-- The height of a class and what follows it, where `opened` is the innermost open class and
`outer` are those around it; `fuel` bounds the number of items. -/
def closeClass? (mode : Mode) :
    Nat → List OpenClass → OpenClass → List Char → Option (Nat × List Char)
  | 0, _, _, _ => none
  | fuel + 1, outer, opened, text =>
      match mode.next text with
      | [] => none
      | ']' :: rest =>
          match outer with
          | [] => some (opened.height + 1, rest)
          | around :: others => closeClass? mode fuel others (around.add (opened.height + 1)) rest
      | '[' :: rest =>
          match asciiClass? rest with
          | some (negated, after) =>
              if mode.admitsCharacters && (mode.unicode || !negated) then
                closeClass? mode fuel outer (opened.add 0) after
              else none
          | none => do
              let (inner, after) ← openClass? mode rest
              closeClass? mode fuel (opened :: outer) inner after
      | '&' :: '&' :: rest => closeClass? mode fuel outer opened.operate rest
      | '-' :: '-' :: rest => closeClass? mode fuel outer opened.operate rest
      | '~' :: '~' :: rest => closeClass? mode fuel outer opened.operate rest
      | item => do closeClass? mode fuel outer (opened.add 0) (← classRange? mode item)

def class? (mode : Mode) (text : List Char) : Option (Nat × List Char) := do
  let (opened, rest) ← openClass? mode text
  closeClass? mode (rest.length + 1) [] opened rest

structure Part where
  height : Nat
  /-- Whether it can be repeated, which switches cannot. -/
  isRepeatable : Bool := true

/-- The inside of a group, or a whole pattern, as far as it has been read. -/
structure OpenGroup where
  mode : Mode := {}
  /-- The parts of the sequence under way, the last one first. -/
  parts : List Part := []
  alternatives : List Nat := []

namespace OpenGroup

def heights (group : OpenGroup) : List Nat :=
  combinedHeight (group.parts.map Part.height) :: group.alternatives

def add (group : OpenGroup) (height : Nat) : OpenGroup :=
  { group with parts := ⟨height, true⟩ :: group.parts }

def alternate (group : OpenGroup) : OpenGroup :=
  { group with parts := [], alternatives := group.heights }

def switch (group : OpenGroup) (mode : Mode) : OpenGroup :=
  { group with mode := mode, parts := ⟨0, false⟩ :: group.parts }

def repeat? (group : OpenGroup) : Option OpenGroup :=
  match group.parts with
  | [] => none
  | last :: parts =>
      if last.isRepeatable then some { group with parts := ⟨last.height + 1, true⟩ :: parts }
      else none

end OpenGroup

structure Place where
  group : OpenGroup := {}
  outer : List OpenGroup := []
  names : List (List Char) := []

def Place.enter (place : Place) (mode : Mode) : Place :=
  { place with group := { mode := mode }, outer := place.group :: place.outer }

def isNameChar (c : Char) : Bool := c ∈ ['_', '.', '[', ']'] || Unicode.isAlphanumeric c

/-- The place in a group with a name, where `text` begins with the name. -/
def enterNamed? (place : Place) (text : List Char) : Option (Place × List Char) :=
  let name := text.takeWhile (· ≠ '>')
  match text.dropWhile (· ≠ '>') with
  | [] => none
  | _ :: rest =>
      if (name.head?.any fun c => c == '_' || Unicode.isAlphabetic c) && name.all isNameChar &&
          name ∉ place.names then
        some ({ place.enter place.group.mode with names := name :: place.names }, rest)
      else none

/-- The place after an opening parenthesis and what belongs to it. -/
def enter? (place : Place) (text : List Char) : Option (Place × List Char) :=
  match place.group.mode.next text with
  | '?' :: 'P' :: '<' :: rest => enterNamed? place rest
  | '?' :: '<' :: rest => enterNamed? place rest
  | '?' :: rest => do
      let written := rest.takeWhile fun c => c ≠ ':' && c ≠ ')'
      let mode ← place.group.mode.switch? written
      match rest.drop written.length with
      | ':' :: inner => return (place.enter mode, inner)
      | ')' :: after =>
          if written = [] then none
          else return ({ place with group := place.group.switch mode }, after)
      | _ => none
  | rest => some (place.enter place.group.mode, rest)

/-- The place after the next part of a pattern, which begins with `c`, and what follows there. -/
def step? (place : Place) (c : Char) (rest : List Char) : Option (Place × List Char) :=
  let mode := place.group.mode
  let single := { place with group := place.group.add 0 }
  match c with
  | '(' => enter? place rest
  | ')' =>
      match place.outer with
      | [] => none
      | around :: outer =>
          let height := combinedHeight place.group.heights + 1
          some ({ place with group := around.add height, outer := outer }, rest)
  | '|' => some ({ place with group := place.group.alternate }, rest)
  | '[' => do
      let (height, after) ← class? mode rest
      return ({ place with group := place.group.add height }, after)
  | '\x7b' => none
  | '\\' => do
      let (escape, after) ← escape? mode rest
      if escape.isAdmitted mode then some (single, after) else none
  | '.' => if mode.unicode then some (single, rest) else none
  | '^' => some (single, rest)
  | '$' => some (single, rest)
  | _ =>
      if c ∈ ['?', '*', '+'] then do
        let group ← place.group.repeat?
        return ({ place with group }, if rest.head? = some '?' then rest.drop 1 else rest)
      else if mode.admitsCharacters then some (single, rest)
      else none

/-- The height of the pattern that a text continues to its end; `fuel` bounds the number of
parts. -/
def height? : Nat → Place → List Char → Option Nat
  | 0, _, _ => none
  | fuel + 1, place, text =>
      match place.group.mode.next text with
      | [] => if place.outer.isEmpty then some (combinedHeight place.group.heights) else none
      | c :: rest => do
          let (after, remaining) ← step? place c rest
          height? fuel after remaining

def heightLimit : Nat := 250

end Pattern

def isPattern (text : List Char) : Bool :=
  (Pattern.height? (text.length + 1) {} text).any (· ≤ Pattern.heightLimit)

end Scaffold.Text
