import Scaffold.Proofs.Template.Division

/-! Templates that are put together from pieces.

Where two texts meet, an opener or a closing run can arise that neither of them has. Here are the
pieces that are safe from that whatever follows them: the expansion of such a piece in front of any
text is a fixed text in front of that text's expansion (`rewrite_append`). Main statement:
`expand_pieces`: a template written from such pieces expands piece by piece. -/

set_option autoImplicit false

namespace Scaffold.Template

variable {tokens : Tokens} {isBound : String → Bool} {text name : List Char}

/-- A piece that expands by itself. A literal holds no opener and no beginning of one at its end.
The name of a span is bound and not also bound without its last brace; or it has no braces and is
unbound, with a brace after it too. -/
inductive Piece.Stands (tokens : Tokens) : Piece → Prop
  | literal {text : List Char} (unopened : ¬ ['{', '{'] <:+: text)
      (ended : text.getLast? ≠ some '{') : Stands tokens (.literal text)
  | known {name : List Char} (bound : tokens.contains (String.ofList name) = true)
      (unpaired : ¬ ['}', '}'] <:+: name)
      (shortest : ∀ shorter, name = shorter ++ ['}'] →
        tokens.contains (String.ofList shorter) = false) : Stands tokens (.token name)
  | unknown {name : List Char} (unopened : '{' ∉ name) (unclosed : '}' ∉ name)
      (unbound : tokens.contains (String.ofList name) = false)
      (unextended : tokens.contains (String.ofList (name ++ ['}'])) = false) :
      Stands tokens (.token name)

/-- What a piece becomes by itself: the span of a name that is not bound stays as it is written. -/
def Piece.expansion (tokens : Tokens) : Piece → List Char
  | .literal text => text
  | .token name => ((tokens.get? (String.ofList name)).map String.toList).getD (written name)

/-! ### The scan in front of any text -/

theorem atomsOf_append_of_unopened {rule : Rule} (unopened : ¬ ['{', '{'] <:+: text)
    (ended : text.getLast? ≠ some '{') (rest : List Char) :
    atomsOf rule (text ++ rest) = characters text ++ atomsOf rule rest := by
  induction text with
  | nil => rfl
  | cons c text ih =>
      have apart : ¬ (c = '{' ∧ (text ++ rest).head? = some '{') := by
        rintro ⟨rfl, second⟩
        cases text with
        | nil => exact ended rfl
        | cons d text =>
            cases Option.some.inj second
            exact unopened ⟨[], text, rfl⟩
      have later : text.getLast? ≠ some '{' := by
        cases text with
        | nil => simp
        | cons d text => rwa [List.getLast?_cons_cons] at ended
      rw [List.cons_append, atomsOf_of_no_span (spanAt_of_not_pair apart),
        ih (fun deeper => unopened (List.infix_cons deeper)) later]
      rfl

theorem spanAt_written_of_known (bound : isBound (String.ofList name) = true)
    (unpaired : ¬ ['}', '}'] <:+: name)
    (shortest : ∀ shorter, name = shorter ++ ['}'] → isBound (String.ofList shorter) = false)
    (rest : List Char) :
    spanAt (boundRule isBound) (written name ++ rest) = some (name, rest) := by
  have begins : written name ++ rest = '{' :: '{' :: (name ++ '}' :: '}' :: rest) := by
    simp [written]
  rw [begins, spanAt]
  rcases splitPair_append unpaired rest with split | ⟨inner, rfl, split⟩
  · rw [split, Option.bind_some]
    exact if_pos bound
  · -- The first `}}` takes in the last brace of the name, so the shorter name is tried before it.
    have unbound : ¬ isBound (String.ofList inner) = true := by
      rw [shortest inner rfl]
      decide
    rw [split, Option.bind_some]
    simp only [boundRule]
    rw [if_neg unbound, if_pos ⟨rfl, bound⟩]
    rfl

theorem spanAt_written_of_unknown (unclosed : '}' ∉ name)
    (unbound : isBound (String.ofList name) = false)
    (unextended : isBound (String.ofList (name ++ ['}'])) = false) (rest : List Char) :
    spanAt (boundRule isBound) (written name ++ rest) = none := by
  have begins : written name ++ rest = '{' :: '{' :: (name ++ '}' :: '}' :: rest) := by
    simp [written]
  rw [begins, spanAt]
  rcases splitPair_append (unpaired_of_plain unclosed) rest with split | ⟨inner, rfl, -⟩
  · rw [split, Option.bind_some]
    simp only [boundRule, unbound, unextended, Bool.false_eq_true, and_false, if_false]
  · exact absurd (List.mem_append_right inner List.mem_cons_self) unclosed

/-- A span without an inner brace is no opener once its first brace is passed. -/
theorem unopened_of_plain (plain : '{' ∉ name) :
    ¬ ['{', '{'] <:+: '{' :: name ++ ['}', '}'] ∧
      ('{' :: name ++ ['}', '}']).getLast? ≠ some '{' := by
  constructor
  · intro inside
    rcases List.infix_cons_iff.mp inside with here | deeper
    · obtain ⟨-, second⟩ := List.cons_prefix_cons.mp here
      have member := second.subset List.mem_cons_self
      simp [plain] at member
    · have member := deeper.subset List.mem_cons_self
      simp [plain] at member
  · rw [List.getLast?_append_of_ne_nil _ (List.cons_ne_nil _ _)]
    decide

/-! ### One piece, and all of them -/

/-- A piece that stands by itself expands by itself in front of any text. -/
theorem rewrite_append {piece : Piece} (stands : piece.Stands tokens) (rest : List Char) :
    rewrite tokens (piece.source ++ rest) = piece.expansion tokens ++ rewrite tokens rest := by
  rw [← flatMap_atomsOf_eq_rewrite, ← flatMap_atomsOf_eq_rewrite]
  cases stands with
  | @literal text unopened ended =>
      rw [Piece.source, atomsOf_append_of_unopened unopened ended, List.flatMap_append,
        flatMap_fill_characters]
      rfl
  | @known name bound unpaired shortest =>
      obtain ⟨value, found⟩ := Option.isSome_iff_exists.mp bound
      have span : spanAt (boundRule fun name => (tokens.get? name).isSome) (written name ++ rest) =
          some (name, rest) := spanAt_written_of_known bound unpaired shortest rest
      rw [Piece.source, atomsOf_of_span span, List.flatMap_cons]
      simp only [Piece.fill, Piece.expansion, found, Option.getD_some, Option.map_some]
  | @unknown name unopened unclosed unbound unextended =>
      have missing : tokens.get? (String.ofList name) = none :=
        Option.not_isSome_iff_eq_none.mp (Bool.eq_false_iff.mp unbound)
      -- The opener gives up its first brace, and what is left of the span reads as a literal.
      have unspanned : spanAt (boundRule fun name => (tokens.get? name).isSome)
          (written name ++ rest) = none :=
        spanAt_written_of_unknown unclosed unbound unextended rest
      obtain ⟨safe, ended⟩ := unopened_of_plain unopened
      rw [Piece.source, Piece.expansion, missing]
      have divided : written name ++ rest = '{' :: ('{' :: name ++ ['}', '}'] ++ rest) := rfl
      rw [divided] at unspanned ⊢
      rw [atomsOf_of_no_span unspanned, atomsOf_append_of_unopened safe ended, List.flatMap_cons,
        List.flatMap_append, flatMap_fill_characters]
      rfl

theorem rewrite_flatMap {pieces : List Piece} (stand : ∀ piece ∈ pieces, piece.Stands tokens) :
    rewrite tokens (pieces.flatMap Piece.source) = pieces.flatMap (Piece.expansion tokens) := by
  induction pieces with
  | nil =>
      rw [List.flatMap_nil, ← flatMap_atomsOf_eq_rewrite, atomsOf_nil]
      rfl
  | cons piece pieces ih =>
      rw [List.flatMap_cons, rewrite_append (stand piece List.mem_cons_self),
        ih fun later member => stand later (List.mem_cons_of_mem piece member)]
      rfl

/-- A template that is written from pieces which stand by themselves expands piece by piece: the
literals stay, the spans of bound names give way to their texts, and those of unbound names stay. -/
theorem expand_pieces (tokens : Tokens) (pieces : List Piece)
    (stand : ∀ piece ∈ pieces, piece.Stands tokens) :
    expand (String.ofList (pieces.flatMap Piece.source)) tokens =
      String.ofList (pieces.flatMap (Piece.expansion tokens)) := by
  apply String.toList_injective
  rw [toList_expand, String.toList_ofList, String.toList_ofList, rewrite_flatMap stand]

/-- Names that end in a brace or consist of one, and a value that holds a span. -/
def braceTokens : Tokens :=
  .ofList [("a", "\x7b\x7ba\x7d\x7d"), ("c\x7d", "C"), ("\x7b", "[")]

def jointPieces : List Piece :=
  [.token ['a'], .literal ['}', 'x', '{', 'y'], .token ['c', '}'], .token ['{'], .token ['u'],
    .literal ['}'], .token [], .token ['a']]

theorem expand_pieces_of_joints :
    (∀ piece ∈ jointPieces, piece.Stands braceTokens) ∧
      jointPieces.flatMap Piece.source =
        ("\x7b\x7ba\x7d\x7d\x7dx\x7by\x7b\x7bc\x7d\x7d\x7d\x7b\x7b\x7b\x7d\x7d" ++
          "\x7b\x7bu\x7d\x7d\x7d\x7b\x7b\x7d\x7d\x7b\x7ba\x7d\x7d").toList ∧
      expand (String.ofList (jointPieces.flatMap Piece.source)) braceTokens =
        "\x7b\x7ba\x7d\x7d\x7dx\x7byC[\x7b\x7bu\x7d\x7d\x7d\x7b\x7b\x7d\x7d\x7b\x7ba\x7d\x7d" := by
  have plain (c : Char) (other : c ≠ '}') (shorter : List Char) : [c] ≠ shorter ++ ['}'] := by
    intro same
    have last := congrArg List.getLast? same
    rw [List.getLast?_concat] at last
    exact other (Option.some.inj last)
  have stand : ∀ piece ∈ jointPieces, piece.Stands braceTokens := by
    have first : Piece.Stands braceTokens (.token ['a']) := .known (by decide) (by decide)
      fun shorter same => absurd same (plain 'a' (by decide) shorter)
    have braced : Piece.Stands braceTokens (.token ['c', '}']) := by
      refine .known (by decide) (by decide) ?_
      intro shorter same
      obtain rfl : ['c'] = shorter := List.append_cancel_right same
      decide
    have single : Piece.Stands braceTokens (.token ['{']) := .known (by decide) (by decide)
      fun shorter same => absurd same (plain '{' (by decide) shorter)
    have unknown : Piece.Stands braceTokens (.token ['u']) :=
      .unknown (by decide) (by decide) (by decide) (by decide)
    have blank : Piece.Stands braceTokens (.token []) :=
      .unknown (by decide) (by decide) (by decide) (by decide)
    have literal : Piece.Stands braceTokens (.literal ['}', 'x', '{', 'y']) :=
      .literal (by decide) (by decide)
    have closing : Piece.Stands braceTokens (.literal ['}']) := .literal (by decide) (by decide)
    simp only [jointPieces, List.forall_mem_cons, List.not_mem_nil, false_implies, implies_true,
      and_true]
    exact ⟨first, literal, braced, single, unknown, closing, blank, first⟩
  exact ⟨stand, by decide, (expand_pieces braceTokens jointPieces stand).trans (by decide)⟩

end Scaffold.Template
