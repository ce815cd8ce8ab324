import Scaffold.Toml.Character
import Scaffold.Toml.Value

/-! Reading TOML numbers.

Integers are decimal with an optional sign and no leading zeros, or hexadecimal, octal or binary
without a sign; they have 64 bits. A number with a fraction or an exponent is a float, and so are
the words `inf` and `nan`. Single underscores may stand between digits. -/

set_option autoImplicit false

namespace Scaffold.Toml

/-- The digits at the beginning of a text, single underscores between them left out, and the
rest. -/
def digitRun (isDigit : Char → Bool) : List Char → List Char × List Char
  | [] => ([], [])
  | c :: rest =>
      if isDigit c then
        let (digits, after) := digitRun isDigit rest
        (c :: digits, after)
      else if c = '_' ∧ (rest.head?.map isDigit).getD false then digitRun isDigit rest
      else ([], c :: rest)

def digits? (isDigit : Char → Bool) (text : List Char) : Option (List Char × List Char) :=
  if (text.head?.map isDigit).getD false then some (digitRun isDigit text) else none

def sign : List Char → Bool × List Char
  | '+' :: rest => (false, rest)
  | '-' :: rest => (true, rest)
  | text => (false, text)

/-- The digits of a decimal whole number; a zero in front stands alone. -/
def wholeDigits? (text : List Char) : Option (List Char × List Char) :=
  match text with
  | '0' :: rest => some (['0'], rest)
  | _ => digits? Char.isDigit text

def fraction? : List Char → Option (List Char × List Char)
  | '.' :: rest => digits? Char.isDigit rest
  | _ => none

def beginsExponent (text : List Char) : Bool :=
  text.head? = some 'e' || text.head? = some 'E'

def exponent? (text : List Char) : Option (Int × List Char) := do
  let (negative, unsigned) := sign (text.drop 1)
  let (digits, rest) ← digits? Char.isDigit unsigned
  let size : Int := digitsValue 10 digits
  return (if negative then -size else size, rest)

def boundedInteger? (value : Int) : Option Value :=
  if -9223372036854775808 ≤ value ∧ value ≤ 9223372036854775807 then some (.integer value)
  else none

def float? (negative : Bool) (digits : Nat) (exponent : Int) : Option Value :=
  match Number.Binary64.ofDecimal negative digits exponent with
  | .infinite false => none
  | value => some (.float value)

def basedInteger? (base : Nat) (isDigit : Char → Bool) (text : List Char) :
    Option (Value × List Char) := do
  let (digits, rest) ← digits? isDigit (text.drop 2)
  let value ← boundedInteger? (digitsValue base digits)
  return (value, rest)

def decimal? (text : List Char) : Option (Value × List Char) := do
  let (negative, unsigned) := sign text
  let (whole, rest) ← wholeDigits? unsigned
  if rest.head? = some '.' then
    let (part, rest) ← fraction? rest
    let (exponent, rest) ← if beginsExponent rest then exponent? rest else some (0, rest)
    let value ← float? negative (digitsValue 10 (whole ++ part)) (exponent - part.length)
    return (value, rest)
  else if beginsExponent rest then
    let (exponent, rest) ← exponent? rest
    let value ← float? negative (digitsValue 10 whole) exponent
    return (value, rest)
  else
    let size : Int := digitsValue 10 whole
    let value ← boundedInteger? (if negative then -size else size)
    return (value, rest)

def wordFloat? (text : List Char) : Option (Value × List Char) :=
  let (negative, unsigned) := sign text
  if unsigned.take 3 = ['i', 'n', 'f'] then some (.float (.infinite negative), unsigned.drop 3)
  else if unsigned.take 3 = ['n', 'a', 'n'] then some (.float .nan, unsigned.drop 3)
  else none

def number? (text : List Char) : Option (Value × List Char) :=
  match text.take 2 with
  | ['0', 'x'] => basedInteger? 16 isHexDigit text
  | ['0', 'o'] => basedInteger? 8 isOctalDigit text
  | ['0', 'b'] => basedInteger? 2 isBinaryDigit text
  | _ => (wordFloat? text).or (decimal? text)

end Scaffold.Toml
