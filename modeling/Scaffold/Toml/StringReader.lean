import Scaffold.Toml.Character

/-! Reading TOML strings.

There are four forms. Between single double quotes escapes are read; between single apostrophes
every character stands for itself; both fit on one line. Between triple quotes of either kind
lines may end, as line feeds, and a line end right after the opening quotes does not count. In the
escaped multi-line form a backslash at the end of a line drops the line end and the white space
after it. A reader takes the text after the opening quotes and returns the string with what
follows the closing ones. -/

set_option autoImplicit false

namespace Scaffold.Toml

/-- The character of a code point, unless it is a surrogate or out of range. -/
def scalar? (value : Nat) : Option Char :=
  if value < 0xD800 || (0xE000 ≤ value && value < 0x110000) then some (Char.ofNat value) else none

def hexScalar? (count : Nat) (text : List Char) : Option Char :=
  let digits := text.take count
  if digits.length = count && digits.all isHexDigit then scalar? (digitsValue 16 digits) else none

/-- The character that an escape stands for and the length of the escape, in a text that begins
after the backslash. -/
def escape? : List Char → Option (Char × Nat)
  | [] => none
  | c :: rest =>
      if c = 'b' then some ('\x08', 1)
      else if c = 't' then some ('\t', 1)
      else if c = 'n' then some ('\n', 1)
      else if c = 'f' then some ('\x0C', 1)
      else if c = 'r' then some ('\r', 1)
      else if c = quoteMark then some (quoteMark, 1)
      else if c = '\\' then some ('\\', 1)
      else if c = 'u' then (hexScalar? 4 rest).map fun char => (char, 5)
      else if c = 'U' then (hexScalar? 8 rest).map fun char => (char, 9)
      else none

def basicString : List Char → Option (List Char × List Char)
  | [] => none
  | c :: rest =>
      if c = quoteMark then some ([], rest)
      else if c = '\\' then
        match escape? rest with
        | none => none
        | some (char, taken) =>
            (basicString (rest.drop taken)).map fun (text, after) => (char :: text, after)
      else if isControl c then none
      else (basicString rest).map fun (text, after) => (c :: text, after)
termination_by text => text.length
decreasing_by all_goals simp only [List.length_drop, List.length_cons]; omega

def literalString : List Char → Option (List Char × List Char)
  | [] => none
  | c :: rest =>
      if c = apostrophe then some ([], rest)
      else if isControl c then none
      else (literalString rest).map fun (text, after) => (c :: text, after)

def lineEnd? : List Char → Option (List Char)
  | '\n' :: rest => some rest
  | '\r' :: '\n' :: rest => some rest
  | _ => none

def skipLines : List Char → List Char
  | ' ' :: rest => skipLines rest
  | '\t' :: rest => skipLines rest
  | '\n' :: rest => skipLines rest
  | '\r' :: '\n' :: rest => skipLines rest
  | text => text

def runLength (c : Char) (text : List Char) : Nat := (text.takeWhile (· = c)).length

/-- The end of a multi-line string in a text that begins with `run` closing quotes, at least three:
up to two more belong to the string. -/
def closeMultiline (quote : Char) (run : Nat) (text : List Char) : List Char × List Char :=
  let kept := min (run - 3) 2
  (List.replicate kept quote, text.drop (kept + 3))

theorem length_skipLines_le (text : List Char) : (skipLines text).length ≤ text.length := by
  fun_induction skipLines text with
  | case1 rest ih => simp only [List.length_cons]; omega
  | case2 rest ih => simp only [List.length_cons]; omega
  | case3 rest ih => simp only [List.length_cons]; omega
  | case4 rest ih => simp only [List.length_cons]; omega
  | case5 => exact Nat.le_refl _

theorem length_lineEnd?_lt {text rest : List Char} (ended : lineEnd? text = some rest) :
    rest.length < text.length := by
  unfold lineEnd? at ended
  split at ended
  · cases ended; simp
  · cases ended; simp only [List.length_cons]; omega
  · cases ended

def multilineBasicString : List Char → Option (List Char × List Char)
  | [] => none
  | c :: rest =>
      if c = quoteMark then
        let run := runLength quoteMark (c :: rest)
        if 3 ≤ run then some (closeMultiline quoteMark run (c :: rest))
        else (multilineBasicString rest).map fun (text, after) => (c :: text, after)
      else if c = '\\' then
        if (lineEnd? (rest.dropWhile isBlank)).isSome then multilineBasicString (skipLines rest)
        else
          match escape? rest with
          | none => none
          | some (char, taken) =>
              (multilineBasicString (rest.drop taken)).map fun (text, after) =>
                (char :: text, after)
      else
        match _ended : lineEnd? (c :: rest) with
        | some next => (multilineBasicString next).map fun (text, after) => ('\n' :: text, after)
        | none =>
            if isControl c then none
            else (multilineBasicString rest).map fun (text, after) => (c :: text, after)
termination_by text => text.length
decreasing_by
  · simp
  · have shorter := length_skipLines_le rest
    simp only [List.length_cons]
    omega
  · simp only [List.length_drop, List.length_cons]; omega
  · exact length_lineEnd?_lt _ended
  · simp

def multilineLiteralString : List Char → Option (List Char × List Char)
  | [] => none
  | c :: rest =>
      if c = apostrophe then
        let run := runLength apostrophe (c :: rest)
        if 3 ≤ run then some (closeMultiline apostrophe run (c :: rest))
        else (multilineLiteralString rest).map fun (text, after) => (c :: text, after)
      else
        match _ended : lineEnd? (c :: rest) with
        | some next => (multilineLiteralString next).map fun (text, after) => ('\n' :: text, after)
        | none =>
            if isControl c then none
            else (multilineLiteralString rest).map fun (text, after) => (c :: text, after)
termination_by text => text.length
decreasing_by
  · simp
  · exact length_lineEnd?_lt _ended
  · simp

/-- A string of any form, in a text that begins with its opening quotes. -/
def string? (text : List Char) : Option (String × List Char) :=
  let opened (quotes : Nat) := text.drop quotes
  let multiline := (lineEnd? (opened 3)).getD (opened 3)
  let read :=
    if text.head? = some quoteMark then
      if 3 ≤ runLength quoteMark text then multilineBasicString multiline
      else basicString (opened 1)
    else if text.head? = some apostrophe then
      if 3 ≤ runLength apostrophe text then multilineLiteralString multiline
      else literalString (opened 1)
    else none
  read.map fun (content, after) => (String.ofList content, after)

end Scaffold.Toml
