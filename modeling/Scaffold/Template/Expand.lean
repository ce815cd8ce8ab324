import Scaffold.Template.Scan
import Scaffold.Tokens

/-! Expansion of a template: token spans are replaced by the texts bound to their names.

Replacement is literal. An inserted text is not scanned again, and a span whose name is unbound
stays as it is. A token name may end in `}`: in a run `}}}` the shorter name is tried first.
Names longer than the longest bound one are never looked up. -/

set_option autoImplicit false

namespace Scaffold.Template

open Scaffold.Text

/-- The offsets at which the span of an opener may close, the nearer one first. -/
def Opening.stops (opening : Opening) : List Nat :=
  if opening.closing.braceFollows then [opening.closing.offset, opening.closing.offset + 1]
  else [opening.closing.offset]

/-- Close the span of an opener at the first place where a bound name of at most `longest` bytes
ends. -/
def closeAtBound (longest : Nat) (isBound : String → Bool) (opening : Opening) : Option Nat :=
  opening.stops.find? fun stop =>
    stop - opening.nameOffset ≤ longest && isBound (String.ofList (opening.cut stop).1)

/-- The pieces that an expansion distinguishes: literal text, and the spans of bound names. -/
def boundPieces (longest : Nat) (isBound : String → Bool) (text : List Char) : List Piece :=
  (Scanner.start text).pieces (closeAtBound longest isBound)

def Piece.fill (value : String → Option String) : Piece → List Char
  | .literal text => text
  | .token name => ((value (String.ofList name)).getD "").toList

/-- Replace the spans of all names that `value` binds, where no such name is longer than
`longest` bytes. -/
def expandWith (longest : Nat) (value : String → Option String) (text : String) : String :=
  String.ofList
    ((boundPieces longest (fun name => (value name).isSome) text.toList).flatMap
      (Piece.fill value))

def expand (text : String) (tokens : Tokens) : String :=
  expandWith tokens.longestName tokens.get? text

/-- Replace spans from two layers of tokens: a name is looked up in `upper` first. -/
def expandLayered (text : String) (lower upper : Tokens) : String :=
  expandWith (max upper.longestName lower.longestName)
    (fun name => (upper.get? name).or (lower.get? name)) text

end Scaffold.Template
