import Scaffold.Text.Offset

/-! The scan that divides a template into literal pieces and token spans.

A span is `{{`, a token name without `}}`, and `}}`. The scan goes once from left to right. At
each `{{` the caller's rule chooses the place where the span closes, or declines; a declined `{{`
gives up its first brace as literal text and the scan resumes at the second. The place of the next
`}}` is looked for once per run of closing braces and kept between openers, so that many openers
before one `}}` cost no more than one.

Two rules are defined elsewhere: expansion closes a span where a bound name ends
(`Scaffold.Template.Expand`), and listing closes every span that does not begin with a brace
(`Scaffold.Template.TokenNames`). Nothing is looked up or replaced here. -/

set_option autoImplicit false

namespace Scaffold.Template

open Scaffold.Text

/-- A `}}` that lies ahead of the scan. -/
structure Closing where
  offset : Nat
  /-- Whether a third `}` follows, so that a span may also close one byte later. -/
  braceFollows : Bool
deriving DecidableEq, Repr

/-- Byte offset of the first `{{` in a text that begins at byte `offset`. -/
def nextOpener : Nat → List Char → Option Nat
  | offset, c :: d :: rest =>
      if c = '{' ∧ d = '{' then some offset else nextOpener (offset + c.utf8Size) (d :: rest)
  | _, [_] => none
  | _, [] => none

def nextClosing : Nat → List Char → Option Closing
  | offset, c :: d :: rest =>
      if c = '}' ∧ d = '}' then some ⟨offset, rest.head? = some '}'⟩
      else nextClosing (offset + c.utf8Size) (d :: rest)
  | _, [_] => none
  | _, [] => none

/-- Where a scan stands: what is left of the text, where that begins, and the `}}` last found. -/
structure Scanner where
  offset : Nat
  rest : List Char
  /-- The `}}` found last; it may lie behind the scan. -/
  closing : Option Closing
deriving Repr

def Scanner.start (text : List Char) : Scanner := ⟨0, text, none⟩

structure Opening where
  skipped : List Char
  offset : Nat
  found : List Char
  closing : Closing
deriving Repr

namespace Opening

def nameOffset (opening : Opening) : Nat := opening.offset + 2

def inside (opening : Opening) : List Char := opening.found.drop 2

/-- The token name if the span closes at byte `stop`, and the text from that `}}` on. -/
def cut (opening : Opening) (stop : Nat) : List Char × List Char :=
  cutAt (stop - opening.nameOffset) opening.inside

def resumeAfter (opening : Opening) (stop : Nat) : Scanner :=
  ⟨stop + 2, (opening.cut stop).2.drop 2, some opening.closing⟩

/-- The scan after an opener that begins no span: one brace further on. -/
def resumeInside (opening : Opening) : Scanner :=
  ⟨opening.offset + 1, opening.found.drop 1, some opening.closing⟩

end Opening

namespace Scanner

/-- The `}}` to use for a span whose name begins at `offset`: the one last found, unless the scan
has passed it. -/
def closingFrom (scanner : Scanner) (offset : Nat) (inside : List Char) : Option Closing :=
  match scanner.closing with
  | some closing =>
      if closing.offset < offset then nextClosing offset inside else some closing
  | none => nextClosing offset inside

/-- The next opener with a closing after it; absent where no opener is left or nothing closes any
more. -/
def opening? (scanner : Scanner) : Option Opening :=
  match nextOpener scanner.offset scanner.rest with
  | none => none
  | some offset =>
      let (skipped, found) := cutAt (offset - scanner.offset) scanner.rest
      (scanner.closingFrom (offset + 2) (found.drop 2)).map fun closing =>
        ⟨skipped, offset, found, closing⟩

end Scanner

inductive Piece where
  | literal (text : List Char)
  | token (name : List Char)
deriving DecidableEq, Repr

/-! ### Each step shortens the text -/

theorem two_le_length_of_nextOpener {offset found : Nat} {text : List Char}
    (located : nextOpener offset text = some found) : 2 ≤ text.length := by
  cases text with
  | nil => simp [nextOpener] at located
  | cons c rest =>
      cases rest with
      | nil => simp [nextOpener] at located
      | cons d rest => simp

theorem Scanner.length_found_le {scanner : Scanner} {opening : Opening}
    (located : scanner.opening? = some opening) :
    opening.found.length ≤ scanner.rest.length ∧ 2 ≤ scanner.rest.length := by
  unfold Scanner.opening? at located
  split at located
  · simp at located
  next offset opener =>
      simp only [Option.map_eq_some_iff] at located
      obtain ⟨closing, -, rfl⟩ := located
      exact ⟨length_cutAt_snd_le _ _, two_le_length_of_nextOpener opener⟩

theorem length_resumeAfter_lt {scanner : Scanner} {opening : Opening} (stop : Nat)
    (located : scanner.opening? = some opening) :
    (opening.resumeAfter stop).rest.length < scanner.rest.length := by
  have bound := Scanner.length_found_le located
  have kept : (opening.cut stop).2.length ≤ opening.inside.length := length_cutAt_snd_le _ _
  simp only [Opening.resumeAfter, Opening.inside, List.length_drop] at kept ⊢
  omega

theorem length_resumeInside_lt {scanner : Scanner} {opening : Opening}
    (located : scanner.opening? = some opening) :
    opening.resumeInside.rest.length < scanner.rest.length := by
  have bound := Scanner.length_found_le located
  simp only [Opening.resumeInside, List.length_drop]
  omega

/-- The pieces of the text ahead of a scan, where `choose` gives the byte offset at which the span
of an opener closes, or declines. -/
def Scanner.pieces (choose : Opening → Option Nat) (scanner : Scanner) : List Piece :=
  match _located : scanner.opening? with
  | none => [.literal scanner.rest]
  | some opening =>
      match choose opening with
      | some stop =>
          .literal opening.skipped :: .token (opening.cut stop).1 ::
            (opening.resumeAfter stop).pieces choose
      | none =>
          .literal opening.skipped :: .literal (opening.found.take 1) ::
            opening.resumeInside.pieces choose
termination_by scanner.rest.length
decreasing_by
  · exact length_resumeAfter_lt stop _located
  · exact length_resumeInside_lt _located

end Scaffold.Template
