import Scaffold.Template.Scan

/-! The token names that a template mentions.

The scan is the one of expansion, with every span accepted except one whose name would begin with
`{`; that opener is left to the `{{` one byte further on, so `{{{name}}}` mentions `name`. -/

set_option autoImplicit false

namespace Scaffold.Template

/-- Close the span of an opener at the first `}}`, unless its name would begin with a brace. -/
def closeAtFirst (opening : Opening) : Option Nat :=
  if opening.inside.head? = some '{' then none else some opening.closing.offset

def Piece.name? : Piece → Option String
  | .literal _ => none
  | .token name => some (String.ofList name)

/-- The spans of a template in order, repeats included. -/
def mentions (text : List Char) : List String :=
  ((Scanner.start text).pieces closeAtFirst).filterMap Piece.name?

def tokenNames (text : String) : List String := (mentions text.toList).eraseDups

end Scaffold.Template
