import Scaffold.Unicode.WhiteSpace

/-! Permission modes written as text.

A mode is octal after `0o`, octal after a leading `0`, and decimal otherwise. White space around it
does not count. A plus may stand before the digits. The value has to fit into 32 bits. -/

set_option autoImplicit false

namespace Scaffold

inductive NumberProblem where
  | empty
  | invalidDigit
  | tooLarge
deriving DecidableEq, Repr

def NumberProblem.message : NumberProblem → String
  | .empty => "cannot parse integer from empty string"
  | .invalidDigit => "invalid digit found in string"
  | .tooLarge => "number too large to fit in target type"

namespace Mode

def isDigitOf (base : Nat) (c : Char) : Bool := c.isDigit && c.toNat - 48 < base

/-- The value of digits read after the number `value`. The first character that is no digit, or
that makes the number too large, decides. -/
def readDigits (base value : Nat) : List Char → Except NumberProblem Nat
  | [] => .ok value
  | c :: rest =>
      if !isDigitOf base c then .error .invalidDigit
      else
        let next := value * base + (c.toNat - 48)
        if next < UInt32.size then readDigits base next rest else .error .tooLarge

/-- An unsigned number in a base, with or without a plus. A sign alone is no number. -/
def readNumber (base : Nat) (text : List Char) : Except NumberProblem Nat :=
  match text with
  | [] => .error .empty
  | ['+'] => .error .invalidDigit
  | '+' :: digits => readDigits base 0 digits
  | digits => readDigits base 0 digits

def readTrimmed (text : List Char) : Except NumberProblem Nat :=
  match text with
  | '0' :: 'o' :: digits => readNumber 8 digits
  | '0' :: c :: digits => readNumber 8 (c :: digits)
  | _ => readNumber 10 text

/-- The mode that a text writes; otherwise the text without white space around it, and what is
wrong with it. -/
def read (text : String) : Except (String × NumberProblem) UInt32 :=
  let trimmed := Unicode.trim text.toList
  match readTrimmed trimmed with
  | .ok value => .ok (UInt32.ofNat value)
  | .error problem => .error (String.ofList trimmed, problem)

end Mode

end Scaffold
