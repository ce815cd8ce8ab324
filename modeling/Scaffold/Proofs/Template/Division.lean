import Scaffold.Proofs.Template.Listing

/-! Texts divided at their spans.

A division is a text cut into literal parts with a name between any two of them; the text has the
span of the name there, and filling puts something else in its place. Main statement:
`exists_division`: there is one division of a text whose names are those that a listing gives, and
which every expansion fills that binds all of them. -/

set_option autoImplicit false

namespace Scaffold.Template

/-- What stands before the first span, and each span's name with what stands after it. -/
structure Division where
  front : List Char
  spans : List (String × List Char)
deriving DecidableEq

namespace Division

def text (division : Division) : List Char :=
  division.front ++ division.spans.flatMap fun (name, after) => written name.toList ++ after

def names (division : Division) : List String := division.spans.map Prod.fst

def fill (division : Division) (value : String → Option String) : List Char :=
  division.front ++
    division.spans.flatMap fun (name, after) => ((value name).getD "").toList ++ after

def ofPieces : List Piece → Division
  | [] => ⟨[], []⟩
  | .literal text :: rest => ⟨text ++ (ofPieces rest).front, (ofPieces rest).spans⟩
  | .token name :: rest =>
      ⟨[], (String.ofList name, (ofPieces rest).front) :: (ofPieces rest).spans⟩

theorem names_ofPieces (pieces : List Piece) :
    (ofPieces pieces).names = pieces.filterMap Piece.name? := by
  induction pieces with
  | nil => rfl
  | cons piece rest ih =>
      cases piece with
      | literal text => exact ih
      | token name => exact congrArg (String.ofList name :: ·) ih

theorem fill_ofPieces (value : String → Option String) (pieces : List Piece) :
    (ofPieces pieces).fill value = pieces.flatMap (Piece.fill value) := by
  induction pieces with
  | nil => rfl
  | cons piece rest ih =>
      rw [List.flatMap_cons, ← ih]
      cases piece with
      | literal text => simp only [fill, ofPieces, Piece.fill, List.append_assoc]
      | token name =>
          simp only [fill, ofPieces, Piece.fill, List.flatMap_cons, List.nil_append,
            List.append_assoc]

end Division

def Piece.source : Piece → List Char
  | .literal text => text
  | .token name => written name

theorem Division.text_ofPieces (pieces : List Piece) :
    (ofPieces pieces).text = pieces.flatMap Piece.source := by
  induction pieces with
  | nil => rfl
  | cons piece rest ih =>
      rw [List.flatMap_cons, ← ih]
      cases piece with
      | literal text => simp only [Division.text, ofPieces, Piece.source, List.append_assoc]
      | token name =>
          simp only [Division.text, ofPieces, Piece.source, List.flatMap_cons, List.nil_append,
            String.toList_ofList, List.append_assoc]

/-! ### The pieces of a rule -/

theorem flatMap_source_atomsOf (rule : Rule) (text : List Char) :
    (atomsOf rule text).flatMap Piece.source = text := by
  fun_induction atomsOf rule text with
  | case1 text token rest span ih =>
      rw [List.flatMap_cons, ih, spanAt_sound span]
      simp [Piece.source, written]
  | case2 missing => rfl
  | case3 c rest missing ih =>
      rw [List.flatMap_cons, ih]
      rfl

theorem mem_atomsOf_listRule {text name : List Char}
    (member : .token name ∈ atomsOf listRule text) :
    ¬ ['}', '}'] <:+: name ∧ name.head? ≠ some '{' := by
  fun_induction atomsOf listRule text with
  | case1 text token rest span ih =>
      rcases List.mem_cons.mp member with here | later
      · cases here
        obtain ⟨inside, -, split, plain⟩ := spanAt_listRule_eq_some.mp span
        refine ⟨?_, plain⟩
        intro paired
        exact splitPair_unpaired split (paired.trans (List.prefix_append name ['}']).isInfix)
      · exact ih later
  | case2 missing => cases member
  | case3 c rest missing ih =>
      rcases List.mem_cons.mp member with here | later
      · cases here
      · exact ih later

/-! ### Listing and expansion in step -/

variable {isBound : String → Bool}

/-- Where the name that listing takes is bound, expansion takes it too. -/
theorem spanAt_boundRule_of_listed {text token rest : List Char}
    (span : spanAt listRule text = some (token, rest))
    (bound : isBound (String.ofList token) = true) :
    spanAt (boundRule isBound) text = some (token, rest) := by
  obtain ⟨inside, rfl, split, -⟩ := spanAt_listRule_eq_some.mp span
  rw [spanAt, split, Option.bind_some]
  exact if_pos bound

/-- Where listing takes nothing, expansion takes nothing either, if no bound name begins with a
brace. -/
theorem spanAt_boundRule_of_unlisted {text : List Char}
    (plain : ∀ name, isBound name = true → name.toList.head? ≠ some '{')
    (missing : spanAt listRule text = none) : spanAt (boundRule isBound) text = none := by
  cases span : spanAt (boundRule isBound) text with
  | none => rfl
  | some pair =>
      obtain ⟨token, rest⟩ := pair
      obtain ⟨bound, spans, -⟩ := spanAt_boundRule span
      obtain ⟨inside, first, after, rfl, split, ends⟩ := spans.split
      rw [String.toList_ofList] at ends
      have unbraced := plain _ bound
      rw [String.toList_ofList] at unbraced
      have listed : first.head? ≠ some '{' := by
        rcases ends with same | ⟨-, longer⟩
        · rwa [← same]
        · intro braced
          rw [longer, List.head?_append, braced] at unbraced
          exact unbraced rfl
      have spanned := spanAt_listRule_eq_some.mpr ⟨inside, rfl, split, listed⟩
      rw [missing] at spanned
      cases spanned

theorem atomsOf_boundRule_eq {text : List Char}
    (supplied : ∀ name, .token name ∈ atomsOf listRule text →
      isBound (String.ofList name) = true)
    (plain : ∀ name, isBound name = true → name.toList.head? ≠ some '{') :
    atomsOf (boundRule isBound) text = atomsOf listRule text := by
  fun_induction atomsOf listRule text with
  | case1 text token rest span ih =>
      have bound := supplied token List.mem_cons_self
      rw [atomsOf_of_span (spanAt_boundRule_of_listed span bound),
        ih fun name member => supplied name (List.mem_cons_of_mem _ member)]
  | case2 missing => exact atomsOf_nil _
  | case3 c rest missing ih =>
      rw [atomsOf_of_no_span (spanAt_boundRule_of_unlisted plain missing),
        ih fun name member => supplied name (List.mem_cons_of_mem _ member)]

theorem nodup_eraseDups (names : List String) : names.eraseDups.Nodup := by
  cases names with
  | nil => exact List.nodup_nil
  | cons name rest =>
      rw [List.eraseDups_cons, List.nodup_cons]
      constructor
      · rw [List.mem_eraseDups]
        simp
      · exact nodup_eraseDups _
termination_by names.length
decreasing_by exact Nat.lt_succ_of_le (List.length_filter_le _ _)

/-- Listing and expansion walk over the same spans: the text has a division whose names, without
later repeats, are the ones listed, and which is filled by every expansion that binds them all and
no name beginning with a brace. -/
theorem exists_division (text : String) :
    ∃ division : Division, division.text = text.toList ∧
      tokenNames text = division.names.eraseDups ∧ (tokenNames text).Nodup ∧
      (∀ name ∈ division.names, ¬ ['}', '}'] <:+: name.toList ∧
        name.toList.head? ≠ some '{') ∧
      ∀ tokens : Tokens, (∀ name ∈ tokenNames text, tokens.contains name = true) →
        (∀ name, tokens.contains name = true → name.toList.head? ≠ some '{') →
          (∀ name ∈ division.names, tokens.contains name = true) ∧
            expand text tokens = String.ofList (division.fill tokens.get?) := by
  refine ⟨Division.ofPieces (atomsOf listRule text.toList), ?_, ?_, ?_, ?_, ?_⟩
  · rw [Division.text_ofPieces, flatMap_source_atomsOf]
  · rw [Division.names_ofPieces, ← mentions_eq]
    rfl
  · exact nodup_eraseDups _
  · intro name member
    rw [Division.names_ofPieces, List.mem_filterMap] at member
    obtain ⟨piece, listed, named⟩ := member
    cases piece with
    | literal text => cases named
    | token token =>
        cases named
        rw [String.toList_ofList]
        exact mem_atomsOf_listRule listed
  · intro tokens supplied plain
    constructor
    · intro name member
      apply supplied
      rw [tokenNames, List.mem_eraseDups, mentions_eq, ← Division.names_ofPieces]
      exact member
    · have bound : ∀ name, .token name ∈ atomsOf listRule text.toList →
          (tokens.get? (String.ofList name)).isSome = true := by
        intro name member
        apply supplied
        rw [mem_tokenNames_iff_atom, String.toList_ofList]
        exact member
      have same : atomsOf (boundRule fun name => (tokens.get? name).isSome) text.toList =
          atomsOf listRule text.toList := atomsOf_boundRule_eq bound plain
      rw [expand, expandWith_eq fun _ known => Tokens.le_longestName known, same,
        Division.fill_ofPieces]

/-- A run of braces with a span in it, one name twice, and an opener that nothing closes. -/
def braceRuns : String :=
  "\x7b\x7b\x7ba\x7d\x7d\x7d\x7b\x7bb\x7d\x7d\x7b\x7ba\x7d\x7d\x7b\x7bc"

theorem exists_division_of_braceRuns :
    ∃ division : Division, division.text = braceRuns.toList ∧
      division.names.eraseDups = ["a", "b"] ∧
      expand braceRuns (Tokens.ofList [("b", "1"), ("a", "2")]) = "\x7b2\x7d12\x7b\x7bc" ∧
      expand braceRuns (Tokens.ofList [("b", "1"), ("a", "2")]) =
        String.ofList (division.fill (Tokens.ofList [("b", "1"), ("a", "2")]).get?) := by
  obtain ⟨division, whole, names, -, -, filled⟩ := exists_division braceRuns
  have listed : tokenNames braceRuns = ["a", "b"] := by decide +kernel
  have supplied : ∀ name ∈ tokenNames braceRuns,
      (Tokens.ofList [("b", "1"), ("a", "2")]).contains name = true := by
    rw [listed]
    decide
  have plain : ∀ name, (Tokens.ofList [("b", "1"), ("a", "2")]).contains name = true →
      name.toList.head? ≠ some '{' := by
    intro name bound
    have unbraced : ∀ name ∈ (Tokens.ofList [("b", "1"), ("a", "2")]).names,
        name.toList.head? ≠ some '{' := by
      decide
    exact unbraced name ((Tokens.mem_names_iff _ name).mpr bound)
  refine ⟨division, whole, names.symm.trans listed, ?_, (filled _ supplied plain).2⟩
  decide +kernel

end Scaffold.Template
