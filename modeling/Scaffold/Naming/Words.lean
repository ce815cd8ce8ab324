/-! The words of a name.

A name is first divided at every character that is not an ASCII letter or digit. Inside such a run
a word ends between a lower-case and an upper-case letter, and before the last capital of a row of
capitals that a lower-case letter follows, so `parseHTTPHeader2x` has the words `parse`, `HTTP` and
`Header2x`. Digits have no case: they carry the case of the letter before them. No word is empty
and no letter or digit is lost. -/

set_option autoImplicit false

namespace Scaffold.Naming

/-- Case of the letter that was last read in the current word. -/
inductive LetterCase where
  | none
  | lower
  | upper
deriving DecidableEq, Repr

def LetterCase.after (before : LetterCase) (c : Char) : LetterCase :=
  if c.isLower then .lower else if c.isUpper then .upper else before

def prependToFirst (c : Char) : List (List Char) → List (List Char)
  | [] => [[c]]
  | word :: words => (c :: word) :: words

/-- The words of a run of letters and digits of which the case `before` was read last. The first
word continues the one that is under way, and is empty if that one ends here. -/
def humps (before : LetterCase) : List Char → List (List Char)
  | [] => []
  | [c] => [[c]]
  | c :: next :: rest =>
      if before.after c = .lower ∧ next.isUpper then
        [c] :: humps .none (next :: rest)
      else if before = .upper ∧ c.isUpper ∧ next.isLower then
        [] :: prependToFirst c (humps .none (next :: rest))
      else
        prependToFirst c (humps (before.after c) (next :: rest))

/-- The runs of ASCII letters and digits of a text, the run under way first; runs may be empty. -/
def runs : List Char → List (List Char)
  | [] => [[]]
  | c :: rest => if c.isAlphanum then prependToFirst c (runs rest) else [] :: runs rest

def words (name : List Char) : List (List Char) := (runs name).flatMap (humps .none)

end Scaffold.Naming
