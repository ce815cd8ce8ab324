import Mathlib.Data.List.MinMax
import Mathlib.Data.List.Infix
import Scaffold.Proofs.Template.Spans

/-! Expansion as plain rewriting.

`rewrite` says what expansion means without offsets, closings or length bounds: at each place the
shortest bound name whose span is there is replaced by its text, and a character that begins no
such span is copied. Main statement: `expand_eq_rewrite`. -/

set_option autoImplicit false

namespace Scaffold

/-! ### Bounds on the names of a token set -/

theorem Tokens.le_foldl_longest (bindings : List (String × String)) (start : Nat) :
    start ≤ bindings.foldl (fun longest binding => max longest binding.1.utf8ByteSize) start ∧
      ∀ name ∈ bindings.map Prod.fst,
        name.utf8ByteSize ≤
          bindings.foldl (fun longest binding => max longest binding.1.utf8ByteSize) start := by
  induction bindings generalizing start with
  | nil => exact ⟨le_rfl, by intro name member; cases member⟩
  | cons binding rest ih =>
      obtain ⟨above, bounded⟩ := ih (max start binding.1.utf8ByteSize)
      refine ⟨le_trans (le_max_left _ _) above, ?_⟩
      intro name member
      rcases List.mem_cons.mp member with rfl | later
      · exact le_trans (le_max_right _ _) above
      · exact bounded name later

theorem Tokens.mem_names_iff (tokens : Tokens) (name : String) :
    name ∈ tokens.names ↔ (tokens.get? name).isSome = true := by
  unfold Tokens.names Tokens.get?
  induction tokens.bindings with
  | nil => simp
  | cons binding rest ih =>
      obtain ⟨key, text⟩ := binding
      rw [Tokens.lookup_binding, List.map_cons, List.mem_cons, ih]
      by_cases same : name = key
      · simp [same]
      · simp [same]

theorem Tokens.le_longestName {tokens : Tokens} {name : String}
    (bound : (tokens.get? name).isSome = true) : name.utf8ByteSize ≤ tokens.longestName :=
  (Tokens.le_foldl_longest tokens.bindings 0).2 name ((tokens.mem_names_iff name).mpr bound)

namespace Template

open Scaffold.Text

theorem utf8ByteSize_ofList (text : List Char) :
    (String.ofList text).utf8ByteSize = byteLength text := by
  induction text with
  | nil => rfl
  | cons c rest ih =>
      have divided : String.ofList (c :: rest) = String.singleton c ++ String.ofList rest := by
        apply String.toList_injective
        simp
      rw [divided, String.utf8ByteSize_append, String.utf8ByteSize_singleton, ih]
      rfl

/-! ### The rule of expansion -/

/-- Close a span at the first `}}` if that gives a bound name, or one byte later in a run `}}}`. -/
def boundRule (isBound : String → Bool) : Rule where
  close name after :=
    if isBound (String.ofList name) then some (name, after)
    else if after.head? = some '}' ∧ isBound (String.ofList (name ++ ['}'])) then
      some (name ++ ['}'], after.drop 1)
    else none
  sound := by
    intro name after token rest closed
    split at closed
    · cases closed
      rfl
    · split at closed
      next longer =>
          cases closed
          cases after with
          | nil => cases longer.1
          | cons c behind =>
              cases Option.some.inj longer.1
              simp
      next => cases closed

theorem follows_boundRule {longest : Nat} {isBound : String → Bool}
    (bounded : ∀ name, isBound name = true → name.utf8ByteSize ≤ longest) :
    Follows (closeAtBound longest isBound) (boundRule isBound) := by
  intro opening name after closes closing
  have accepted (token rest : List Char) (divided : opening.inside = token ++ '}' :: '}' :: rest) :
      (decide (opening.nameOffset + byteLength token - opening.nameOffset ≤ longest) &&
          isBound (String.ofList (opening.cut (opening.nameOffset + byteLength token)).1)) =
        isBound (String.ofList token) := by
    rw [Opening.cut_eq divided, Nat.add_sub_cancel_left]
    cases known : isBound (String.ofList token) with
    | false => rw [Bool.and_false]
    | true =>
        have short := bounded _ known
        rw [utf8ByteSize_ofList] at short
        rw [decide_eq_true short, Bool.and_true]
  have divided := splitPair_eq_some closes
  have nearer := accepted name after divided
  unfold closeAtBound Opening.stops
  rw [closing]
  simp only [decide_eq_true_eq]
  by_cases third : after.head? = some '}'
  · have farther : opening.inside = (name ++ ['}']) ++ '}' :: '}' :: after.drop 1 := by
      cases after with
      | nil => cases third
      | cons c behind =>
          cases Option.some.inj third
          rw [divided]
          simp
    have later := accepted (name ++ ['}']) (after.drop 1) farther
    have one : byteLength ['}'] = 1 := by decide
    rw [byteLength_append, one, ← Nat.add_assoc] at later
    rw [if_pos third, List.find?_cons, nearer, List.find?_cons, later]
    simp only [boundRule, third, true_and]
    cases isBound (String.ofList name) with
    | true => rfl
    | false =>
        cases isBound (String.ofList (name ++ ['}'])) with
        | true => simp [byteLength_append, one, Nat.add_assoc]
        | false => rfl
  · rw [if_neg third, List.find?_cons, nearer]
    simp only [boundRule, third, false_and, if_false]
    cases isBound (String.ofList name) with
    | true => rfl
    | false => rfl

theorem flatMap_fill_characters (value : String → Option String) (text : List Char) :
    (characters text).flatMap (Piece.fill value) = text := by
  simp only [characters, List.flatMap_map, Piece.fill, List.flatMap_singleton']

theorem flatMap_atoms_fill (value : String → Option String) (pieces : List Piece) :
    (pieces.flatMap Piece.atoms).flatMap (Piece.fill value) =
      pieces.flatMap (Piece.fill value) := by
  rw [List.flatMap_assoc]
  congr 1
  funext piece
  cases piece with
  | literal text => exact flatMap_fill_characters value text
  | token name => simp only [Piece.atoms, Piece.fill, List.flatMap_singleton]

/-- An expansion fills in the spans that its rule finds. The bound on the length of names, the kept
closing and the early end of the scan do not show. -/
theorem expandWith_eq {longest : Nat} {value : String → Option String}
    (bounded : ∀ name, (value name).isSome = true → name.utf8ByteSize ≤ longest)
    (text : String) :
    expandWith longest value text =
      String.ofList
        ((atomsOf (boundRule fun name => (value name).isSome) text.toList).flatMap
          (Piece.fill value)) := by
  have scanned := Scanner.atoms_pieces (follows_boundRule bounded)
    (Scanner.current_start text.toList)
  unfold expandWith boundPieces
  rw [← flatMap_atoms_fill, scanned]
  rfl

/-! ### Names whose spans a text begins with -/

/-- A text begins with the span of a name. A name that holds `}}` has no span. -/
def SpansAt (text : List Char) (name : String) : Prop :=
  ¬ ['}', '}'] <:+: name.toList ∧ '{' :: '{' :: name.toList ++ ['}', '}'] <+: text

instance (text : List Char) (name : String) : Decidable (SpansAt text name) :=
  inferInstanceAs (Decidable (_ ∧ _))

/-- The shortest bound name whose span a text begins with. -/
def shortestSpan? (tokens : Tokens) (text : List Char) : Option String :=
  (tokens.names.filter fun name => SpansAt text name).argmin String.length

theorem SpansAt.four_le {text : List Char} {name : String} (spans : SpansAt text name) :
    name.length + 4 ≤ text.length := by
  have within := spans.2.length_le
  simp only [List.length_append, List.length_cons, List.length_nil, String.length_toList] at within
  omega

theorem mem_filter_spansAt {tokens : Tokens} {text : List Char} {name : String} :
    name ∈ (tokens.names.filter fun name => SpansAt text name) ↔
      (tokens.get? name).isSome = true ∧ SpansAt text name := by
  rw [List.mem_filter, tokens.mem_names_iff, decide_eq_true_eq]

theorem shortestSpan?_eq_some {tokens : Tokens} {text : List Char} {name : String}
    (found : shortestSpan? tokens text = some name) :
    (tokens.get? name).isSome = true ∧ SpansAt text name :=
  mem_filter_spansAt.mp (List.argmin_mem found)

/-- A text with its spans replaced from left to right. At each place the shortest bound name whose
span is there is replaced, and its text is not looked at again; otherwise one character is
copied. -/
def rewrite (tokens : Tokens) (text : List Char) : List Char :=
  match _found : shortestSpan? tokens text with
  | some name =>
      ((tokens.get? name).getD "").toList ++ rewrite tokens (text.drop (name.length + 4))
  | none =>
      match text with
      | [] => []
      | c :: rest => c :: rewrite tokens rest
termination_by text.length
decreasing_by
  · have long := (shortestSpan?_eq_some _found).2.four_le
    rw [List.length_drop]
    omega
  · simp

theorem splitPair_unpaired {brace : Char} {text front back : List Char}
    (split : splitPair brace text = some (front, back)) :
    ¬ [brace, brace] <:+: front ++ [brace] := by
  induction text generalizing front with
  | nil => cases split
  | cons c rest ih =>
      by_cases paired : c = brace ∧ rest.head? = some brace
      · rw [splitPair, if_pos paired] at split
        cases split
        intro inside
        have short := inside.length_le
        simp at short
      · rw [splitPair_of_not_pair paired] at split
        obtain ⟨⟨inner, behind⟩, found, same⟩ := Option.map_eq_some_iff.mp split
        cases same
        rw [List.cons_append, List.infix_cons_iff]
        rintro (atFront | deeper)
        · obtain ⟨rfl, second⟩ := List.cons_prefix_cons.mp atFront
          apply paired
          refine ⟨rfl, ?_⟩
          rw [splitPair_eq_some found]
          cases inner with
          | nil => rfl
          | cons d inner =>
              obtain ⟨rfl, -⟩ := List.cons_prefix_cons.mp second
              rfl
        · exact ih found deeper

theorem splitPair_append {brace : Char} {front : List Char}
    (unpaired : ¬ [brace, brace] <:+: front) (back : List Char) :
    splitPair brace (front ++ brace :: brace :: back) = some (front, back) ∨
      ∃ inner, front = inner ++ [brace] ∧
        splitPair brace (front ++ brace :: brace :: back) = some (inner, brace :: back) := by
  induction front with
  | nil => exact Or.inl (splitPair_of_pair brace back)
  | cons c rest ih =>
      by_cases paired : c = brace ∧ (rest ++ brace :: brace :: back).head? = some brace
      · obtain ⟨rfl, second⟩ := paired
        cases rest with
        | nil => exact Or.inr ⟨[], rfl, splitPair_of_pair c (c :: back)⟩
        | cons d rest =>
            cases Option.some.inj second
            exact absurd ⟨[], rest, rfl⟩ unpaired
      · have apart := splitPair_of_not_pair paired
        have later : ¬ [brace, brace] <:+: rest := fun deeper =>
          unpaired (List.infix_cons deeper)
        rcases ih later with same | ⟨inner, rfl, same⟩
        · left
          rw [List.cons_append, apart, same]
          rfl
        · right
          refine ⟨c :: inner, rfl, ?_⟩
          rw [List.cons_append, apart, same]
          rfl

/-- A name with a span ends at the first `}}` after the opener, or one byte later. -/
theorem SpansAt.split {text : List Char} {name : String} (spans : SpansAt text name) :
    ∃ inside first after, text = '{' :: '{' :: inside ∧
      splitPair '}' inside = some (first, after) ∧
        (name.toList = first ∨ after.head? = some '}' ∧ name.toList = first ++ ['}']) := by
  obtain ⟨unpaired, rest, whole⟩ := spans
  refine ⟨name.toList ++ '}' :: '}' :: rest, ?_⟩
  have begins : text = '{' :: '{' :: (name.toList ++ '}' :: '}' :: rest) := by
    rw [← whole]
    simp only [List.cons_append, List.append_assoc, List.nil_append]
  rcases splitPair_append unpaired rest with same | ⟨inner, ends, same⟩
  · exact ⟨name.toList, rest, begins, same, Or.inl rfl⟩
  · exact ⟨inner, '}' :: rest, begins, same, Or.inr ⟨rfl, ends⟩⟩

theorem spansAt_of_split {inside first after : List Char}
    (split : splitPair '}' inside = some (first, after)) :
    SpansAt ('{' :: '{' :: inside) (String.ofList first) ∧
      (after.head? = some '}' →
        SpansAt ('{' :: '{' :: inside) (String.ofList (first ++ ['}']))) := by
  have unpaired := splitPair_unpaired split
  have divided := splitPair_eq_some split
  constructor
  · refine ⟨?_, after, ?_⟩
    · rw [String.toList_ofList]
      exact fun deeper => unpaired (deeper.trans (List.prefix_append first ['}']).isInfix)
    · rw [String.toList_ofList, divided]
      simp
  · intro third
    cases after with
    | nil => cases third
    | cons c behind =>
        cases Option.some.inj third
        refine ⟨?_, behind, ?_⟩
        · rw [String.toList_ofList]
          exact unpaired
        · rw [String.toList_ofList, divided]
          simp

theorem boundRule_close_eq_some {isBound : String → Bool} {first after token rest : List Char}
    (closed : (boundRule isBound).close first after = some (token, rest)) :
    isBound (String.ofList token) = true ∧
      (token = first ∨ isBound (String.ofList first) = false ∧ after.head? = some '}' ∧
        token = first ++ ['}']) := by
  simp only [boundRule] at closed
  split at closed
  next bound =>
      cases closed
      exact ⟨bound, Or.inl rfl⟩
  next unbound =>
      split at closed
      next longer =>
          cases closed
          exact ⟨longer.2, Or.inr ⟨Bool.eq_false_of_not_eq_true unbound, longer.1, rfl⟩⟩
      next => cases closed

/-- The span that expansion finds is that of a bound name, and of the shortest one. -/
theorem spanAt_boundRule {isBound : String → Bool} {text token rest : List Char}
    (span : spanAt (boundRule isBound) text = some (token, rest)) :
    isBound (String.ofList token) = true ∧ SpansAt text (String.ofList token) ∧
      ∀ name, isBound name = true → SpansAt text name → name.length ≤ token.length →
        name = String.ofList token := by
  unfold spanAt at span
  split at span
  next inside =>
      obtain ⟨⟨first, after⟩, split, closed⟩ := Option.bind_eq_some_iff.mp span
      obtain ⟨nearer, farther⟩ := spansAt_of_split split
      obtain ⟨bound, chosen⟩ := boundRule_close_eq_some closed
      refine ⟨bound, ?_, ?_⟩
      · rcases chosen with rfl | ⟨-, third, rfl⟩
        · exact nearer
        · exact farther third
      · intro name known spans short
        obtain ⟨inner, other, behind, same, found, ends⟩ := spans.split
        cases same
        rw [split] at found
        cases found
        rw [← String.length_toList] at short
        apply String.toList_injective
        rw [String.toList_ofList]
        rcases chosen with rfl | ⟨unbound, -, rfl⟩
        · rcases ends with same | ⟨-, longer⟩
          · exact same
          · rw [longer, List.length_append, List.length_singleton] at short
            omega
        · rcases ends with same | ⟨-, longer⟩
          · rw [← same, String.ofList_toList, known] at unbound
            cases unbound
          · exact longer
  next => cases span

theorem spanAt_isSome_of_spansAt {isBound : String → Bool} {text : List Char} {name : String}
    (known : isBound name = true) (spans : SpansAt text name) :
    (spanAt (boundRule isBound) text).isSome = true := by
  obtain ⟨inside, first, after, rfl, split, ends⟩ := spans.split
  rw [spanAt, split, Option.bind_some]
  simp only [boundRule]
  split
  · rfl
  next unbound =>
      rcases ends with same | ⟨third, longer⟩
      · rw [← same, String.ofList_toList] at unbound
        exact absurd known unbound
      · rw [← longer, String.ofList_toList, if_pos ⟨third, known⟩]
        rfl

theorem shortestSpan?_eq_spanAt (tokens : Tokens) (text : List Char) :
    shortestSpan? tokens text =
      (spanAt (boundRule fun name => (tokens.get? name).isSome) text).map fun (token, _) =>
        String.ofList token := by
  cases chosen : shortestSpan? tokens text with
  | none =>
      cases span : spanAt (boundRule fun name => (tokens.get? name).isSome) text with
      | none => rfl
      | some pair =>
          obtain ⟨token, rest⟩ := pair
          obtain ⟨bound, spans, -⟩ := spanAt_boundRule span
          have member := mem_filter_spansAt.mpr ⟨bound, spans⟩
          rw [List.argmin_eq_none.mp chosen] at member
          cases member
  | some name =>
      obtain ⟨known, spans⟩ := shortestSpan?_eq_some chosen
      have spanned :
          (spanAt (boundRule fun name => (tokens.get? name).isSome) text).isSome = true :=
        spanAt_isSome_of_spansAt known spans
      obtain ⟨⟨token, rest⟩, span⟩ := Option.isSome_iff_exists.mp spanned
      obtain ⟨bound, atToken, shortest⟩ := spanAt_boundRule span
      have short := List.le_of_mem_argmin (mem_filter_spansAt.mpr ⟨bound, atToken⟩) chosen
      rw [String.length_ofList] at short
      rw [span, shortest name known spans short]
      rfl

theorem flatMap_atomsOf_eq_rewrite (tokens : Tokens) (text : List Char) :
    (atomsOf (boundRule fun name => (tokens.get? name).isSome) text).flatMap
        (Piece.fill tokens.get?) = rewrite tokens text := by
  fun_induction rewrite tokens text with
  | case1 text name found ih =>
      rw [shortestSpan?_eq_spanAt] at found
      obtain ⟨⟨token, rest⟩, span, rfl⟩ := Option.map_eq_some_iff.mp found
      have remaining : text.drop ((String.ofList token).length + 4) = rest := by
        rw [String.length_ofList, spanAt_sound span]
        simp
      rw [remaining] at ih ⊢
      rw [atomsOf_of_span span, List.flatMap_cons, ih]
      rfl
  | case2 found => rw [atomsOf_nil, List.flatMap_nil]
  | case3 c rest found ih =>
      rw [shortestSpan?_eq_spanAt, Option.map_eq_none_iff] at found
      rw [atomsOf_of_no_span found, List.flatMap_cons, ih]
      rfl

theorem toList_expand (text : String) (tokens : Tokens) :
    (expand text tokens).toList = rewrite tokens text.toList := by
  rw [expand, expandWith_eq fun _ bound => Tokens.le_longestName bound, String.toList_ofList,
    flatMap_atomsOf_eq_rewrite]

/-- Expansion is plain rewriting: from the left, at each place the shortest bound name whose span
is there gives way to its text, which is not scanned again. -/
theorem expand_eq_rewrite (text : String) (tokens : Tokens) :
    expand text tokens = String.ofList (rewrite tokens text.toList) := by
  rw [expand, expandWith_eq fun _ bound => Tokens.le_longestName bound,
    flatMap_atomsOf_eq_rewrite]

end Template

end Scaffold
