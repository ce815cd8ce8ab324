import Scaffold.Proofs.Template.Rewriting
import Scaffold.Template.TokenNames

/-! Which spans a listing sees.

Listing closes every span whose text does not begin with a brace, so a span inside one that an earlier
opener has begun is passed over, while expansion would still find it. Main statement:
`replaced_iff_and_listed_iff`: a name is replaced where its span occurs, and listed where its span
occurs with no earlier opener left open. -/

set_option autoImplicit false

namespace Scaffold.Template

open Scaffold.Text

/-! ### The rule of listing -/

/-- Close a span at the first `}}`, unless the text before that begins with a brace. -/
def listRule : Rule where
  close name after := if name.head? = some '{' then none else some (name, after)
  sound := by
    intro name after token rest closed
    split at closed
    · cases closed
    · cases closed
      rfl

theorem follows_listRule : Follows closeAtFirst listRule := by
  intro opening name after closes closing
  have divided := splitPair_eq_some closes
  have same : opening.inside.head? = some '{' ↔ name.head? = some '{' := by
    rw [divided]
    cases name with
    | nil =>
        constructor
        · intro braced
          cases braced
        · intro braced
          cases braced
    | cons c rest => exact Iff.rfl
  unfold closeAtFirst listRule
  by_cases braced : name.head? = some '{'
  · rw [if_pos (same.mpr braced)]
    simp only
    rw [if_pos braced]
    rfl
  · rw [if_neg (fun inside => braced (same.mp inside)), closing]
    simp only
    rw [if_neg braced]
    rfl

theorem filterMap_name?_atoms (pieces : List Piece) :
    (pieces.flatMap Piece.atoms).filterMap Piece.name? = pieces.filterMap Piece.name? := by
  induction pieces with
  | nil => rfl
  | cons piece rest ih =>
      rw [List.flatMap_cons, List.filterMap_append, ih]
      cases piece with
      | literal text =>
          have silent : (characters text).filterMap Piece.name? = [] := by
            rw [characters, List.filterMap_map]
            exact List.filterMap_eq_nil_iff.mpr fun _ _ => rfl
          rw [Piece.atoms, silent]
          rfl
      | token name => rfl

theorem mentions_eq (text : List Char) :
    mentions text = (atomsOf listRule text).filterMap Piece.name? := by
  rw [mentions, ← filterMap_name?_atoms,
    Scanner.atoms_pieces follows_listRule (Scanner.current_start text)]
  rfl

theorem mem_tokenNames_iff_atom {text name : String} :
    name ∈ tokenNames text ↔ .token name.toList ∈ atomsOf listRule text.toList := by
  rw [tokenNames, List.mem_eraseDups, mentions_eq, List.mem_filterMap]
  constructor
  · intro ⟨piece, member, named⟩
    cases piece with
    | literal text => cases named
    | token token =>
        cases named
        rwa [String.toList_ofList]
  · intro member
    exact ⟨_, member, congrArg some String.ofList_toList⟩

theorem spanAt_listRule_eq_some {text token rest : List Char} :
    spanAt listRule text = some (token, rest) ↔
      ∃ inside, text = '{' :: '{' :: inside ∧ splitPair '}' inside = some (token, rest) ∧
        token.head? ≠ some '{' := by
  constructor
  · intro span
    unfold spanAt at span
    split at span
    next inside =>
        obtain ⟨⟨name, after⟩, split, closed⟩ := Option.bind_eq_some_iff.mp span
        simp only [listRule] at closed
        split at closed
        next => cases closed
        next plain =>
            cases closed
            exact ⟨inside, rfl, split, plain⟩
    next => cases span
  · rintro ⟨inside, same, split, plain⟩
    rw [same, spanAt, split, Option.bind_some]
    exact if_neg plain

/-! ### Openers that are left open -/

def written (name : List Char) : List Char := '{' :: '{' :: name ++ ['}', '}']

/-- An opener stands before this text and is still open at its end: no `}}` comes after it, and the
first character after it is no brace. -/
structure StaysOpen (inside : List Char) : Prop where
  begins : ∃ c, inside.head? = some c ∧ c ≠ '{'
  unclosed : ¬ ['}', '}'] <:+: inside

def LeavesOpen (text : List Char) : Prop :=
  ∃ before inside, text = before ++ '{' :: '{' :: inside ∧ StaysOpen inside

theorem not_leavesOpen_nil : ¬ LeavesOpen [] := by
  rintro ⟨before, inside, same, -⟩
  have long := congrArg List.length same
  simp only [List.length_nil, List.length_append, List.length_cons] at long
  omega

theorem leavesOpen_cons_iff {c : Char} {rest : List Char} :
    LeavesOpen (c :: rest) ↔
      (∃ inside, c :: rest = '{' :: '{' :: inside ∧ StaysOpen inside) ∨ LeavesOpen rest := by
  constructor
  · intro ⟨before, inside, same, opens⟩
    cases before with
    | nil => exact Or.inl ⟨inside, same, opens⟩
    | cons d before =>
        cases same
        exact Or.inr ⟨before, inside, rfl, opens⟩
  · rintro (⟨inside, same, opens⟩ | ⟨before, inside, same, opens⟩)
    · exact ⟨[], inside, same, opens⟩
    · exact ⟨c :: before, inside, by rw [same]; rfl, opens⟩

theorem LeavesOpen.append {back : List Char} (front : List Char) (leaves : LeavesOpen back) :
    LeavesOpen (front ++ back) := by
  induction front with
  | nil => exact leaves
  | cons c front ih => exact leavesOpen_cons_iff.mpr (Or.inr ih)

theorem leavesOpen_of_append_closing {front back : List Char}
    (leaves : LeavesOpen (front ++ '}' :: '}' :: back)) : LeavesOpen back := by
  induction front with
  | nil =>
      rcases leavesOpen_cons_iff.mp leaves with ⟨inside, same, -⟩ | second
      · cases same
      · rcases leavesOpen_cons_iff.mp second with ⟨inside, same, -⟩ | later
        · cases same
        · exact later
  | cons c front ih =>
      rcases leavesOpen_cons_iff.mp leaves with ⟨inside, same, opens⟩ | later
      · cases front with
        | nil => cases same
        | cons d front =>
            cases same
            exact absurd ⟨front, back, by simp⟩ opens.unclosed
      · exact ih later

/-! ### Listed spans -/

theorem unpaired_of_plain {name : List Char} (plain : '}' ∉ name) : ¬ ['}', '}'] <:+: name := by
  intro inside
  exact plain (inside.subset List.mem_cons_self)

theorem spanAt_listRule_written {name after : List Char} (unopened : '{' ∉ name)
    (unclosed : '}' ∉ name) : spanAt listRule (written name ++ after) = some (name, after) := by
  apply spanAt_listRule_eq_some.mpr
  refine ⟨name ++ '}' :: '}' :: after, by simp [written], ?_, ?_⟩
  · rcases splitPair_append (unpaired_of_plain unclosed) after with split | ⟨inner, ends, -⟩
    · exact split
    · rw [ends] at unclosed
      exact absurd (List.mem_append_right inner List.mem_cons_self) unclosed
  · intro braced
    exact unopened (List.mem_of_mem_head? braced)

theorem splitPair_isSome {brace : Char} {text : List Char}
    (paired : [brace, brace] <:+: text) : (splitPair brace text).isSome = true := by
  induction text with
  | nil => cases List.infix_nil.mp paired
  | cons c rest ih =>
      by_cases first : c = brace ∧ rest.head? = some brace
      · rw [splitPair, if_pos first]
        rfl
      · rw [splitPair_of_not_pair first, Option.isSome_map]
        rcases List.infix_cons_iff.mp paired with atFront | deeper
        · obtain ⟨after, same⟩ := atFront
          cases same
          exact absurd ⟨rfl, rfl⟩ first
        · exact ih deeper

theorem spanAt_listRule_isSome {inside after : List Char} (opens : StaysOpen inside)
    (closes : ['}', '}'] <:+: after) :
    (spanAt listRule ('{' :: '{' :: (inside ++ after))).isSome = true := by
  have paired : ['}', '}'] <:+: inside ++ after :=
    closes.trans (List.suffix_append inside after).isInfix
  obtain ⟨⟨token, rest⟩, split⟩ := Option.isSome_iff_exists.mp (splitPair_isSome paired)
  apply Option.isSome_iff_exists.mpr
  refine ⟨(token, rest), spanAt_listRule_eq_some.mpr ⟨_, rfl, split, ?_⟩⟩
  obtain ⟨c, begins, plain⟩ := opens.begins
  have divided := splitPair_eq_some split
  intro braced
  have heads := congrArg List.head? divided
  rw [List.head?_append, List.head?_append, begins, braced] at heads
  exact plain (Option.some.inj heads)

theorem leavesOpen_of_inside {token rest before after : List Char}
    (plain : token.head? ≠ some '{') (unpaired : ¬ ['}', '}'] <:+: token ++ ['}'])
    (same : written token ++ rest = before ++ '{' :: '{' :: after)
    (apart : before ≠ []) (short : before.length < (written token).length) :
    LeavesOpen before := by
  have unbraced : (token ++ '}' :: '}' :: rest).head? ≠ some '{' := by
    cases token with
    | nil => simp
    | cons c token => exact plain
  have whole : '{' :: '{' :: (token ++ '}' :: '}' :: rest) = before ++ '{' :: '{' :: after := by
    rw [← same]
    simp [written]
  match before, apart with
  | [c], _ =>
      obtain ⟨-, inner⟩ := List.cons.inj whole
      obtain ⟨-, deeper⟩ := List.cons.inj inner
      rw [deeper] at unbraced
      exact absurd rfl unbraced
  | c :: d :: inside, _ =>
      obtain ⟨rfl, inner⟩ := List.cons.inj whole
      obtain ⟨rfl, deeper⟩ := List.cons.inj inner
      refine ⟨[], inside, rfl, ?_, ?_⟩
      · cases inside with
        | nil =>
            rw [deeper] at unbraced
            exact absurd rfl unbraced
        | cons e inside =>
            refine ⟨e, rfl, ?_⟩
            rintro rfl
            rw [deeper] at unbraced
            exact unbraced rfl
      · have begins : inside <+: token ++ ['}'] := by
          apply @List.prefix_of_prefix_length_le _ _ _ (token ++ '}' :: '}' :: rest)
          · exact ⟨_, deeper.symm⟩
          · exact ⟨'}' :: rest, by simp⟩
          · simp only [written, List.length_append, List.length_cons, List.length_nil] at short ⊢
            omega
        intro closing
        exact unpaired (closing.trans begins.isInfix)

/-- A name without braces is listed exactly where its span occurs with no opener open before it. -/
theorem token_mem_atomsOf_iff {name : List Char} (unopened : '{' ∉ name) (unclosed : '}' ∉ name)
    (text : List Char) :
    .token name ∈ atomsOf listRule text ↔
      ∃ before after, text = before ++ (written name ++ after) ∧ ¬ LeavesOpen before := by
  fun_induction atomsOf listRule text with
  | case1 text token rest span ih =>
      obtain ⟨inside, same, split, plain⟩ := spanAt_listRule_eq_some.mp span
      have whole : text = written token ++ rest := by
        rw [spanAt_sound span]
        simp [written]
      rw [List.mem_cons, ih]
      constructor
      · rintro (first | ⟨before, after, later, free⟩)
        · cases first
          exact ⟨[], rest, whole, not_leavesOpen_nil⟩
        · refine ⟨written token ++ before, after, by rw [whole, later, List.append_assoc], ?_⟩
          intro leaves
          apply free
          apply @leavesOpen_of_append_closing ('{' :: '{' :: token)
          rwa [written, List.append_assoc] at leaves
      · rintro ⟨before, after, occurs, free⟩
        rcases List.append_eq_append_iff.mp (whole.symm.trans occurs) with
          ⟨between, later, remaining⟩ | ⟨between, divided, remaining⟩
        · right
          refine ⟨between, after, remaining, ?_⟩
          intro leaves
          apply free
          rw [later]
          exact leaves.append _
        · by_cases start : before = []
          · left
            rw [start, List.nil_append] at occurs
            rw [occurs, spanAt_listRule_written unopened unclosed] at span
            cases span
            rfl
          · by_cases reached : between = []
            · right
              rw [reached, List.nil_append] at remaining
              exact ⟨[], after, remaining.symm, not_leavesOpen_nil⟩
            · have short := congrArg List.length divided
              have positive := List.length_pos_of_ne_nil reached
              rw [List.length_append] at short
              exact absurd
                (leavesOpen_of_inside plain (splitPair_unpaired split)
                  (whole.symm.trans occurs) start (by omega)) free
  | case2 missing =>
      constructor
      · intro member
        cases member
      · rintro ⟨before, after, occurs, -⟩
        have long := congrArg List.length occurs
        simp only [written, List.length_nil, List.length_append, List.length_cons] at long
        omega
  | case3 c rest missing ih =>
      rw [List.mem_cons, ih]
      constructor
      · rintro (first | ⟨before, after, later, free⟩)
        · cases first
        · refine ⟨c :: before, after, by rw [later]; rfl, ?_⟩
          intro leaves
          rcases leavesOpen_cons_iff.mp leaves with ⟨inside, same, opens⟩ | deeper
          · have closes : ['}', '}'] <:+: written name ++ after :=
              ⟨'{' :: '{' :: name, after, by simp [written]⟩
            have spanned := spanAt_listRule_isSome opens closes
            have here : c :: rest = '{' :: '{' :: (inside ++ (written name ++ after)) := by
              rw [later, ← List.cons_append, same]
              rfl
            rw [← here, missing] at spanned
            cases spanned
          · exact free deeper
      · rintro ⟨before, after, occurs, free⟩
        right
        cases before with
        | nil =>
            rw [List.nil_append] at occurs
            rw [occurs, spanAt_listRule_written unopened unclosed] at missing
            cases missing
        | cons d before =>
            cases occurs
            exact ⟨before, after, rfl, fun deeper => free (deeper.append [c])⟩

/-! ### Spans that are replaced -/

theorem not_spansAt_of_shortestSpan? {tokens : Tokens} {text : List Char}
    (missing : shortestSpan? tokens text = none) {name : String}
    (bound : (tokens.get? name).isSome = true) : ¬ SpansAt text name := by
  intro spans
  have member := mem_filter_spansAt.mpr ⟨bound, spans⟩
  rw [List.argmin_eq_none.mp missing] at member
  cases member

theorem rewrite_eq_self {tokens : Tokens} {text : List Char}
    (absent : ∀ name, (tokens.get? name).isSome = true → ¬ written name.toList <:+: text) :
    rewrite tokens text = text := by
  fun_induction rewrite tokens text with
  | case1 text name found ih =>
      obtain ⟨bound, spans⟩ := shortestSpan?_eq_some found
      exact absurd spans.2.isInfix (absent name bound)
  | case2 => rfl
  | case3 c rest found ih =>
      rw [ih fun name bound occurs => absent name bound (List.infix_cons occurs)]

theorem length_rewrite_of_blank {tokens : Tokens} (blank : ∀ name, (tokens.get? name).getD "" = "")
    (text : List Char) :
    (rewrite tokens text).length ≤ text.length ∧
      ∀ name, (tokens.get? name).isSome = true → ¬ ['}', '}'] <:+: name.toList →
        written name.toList <:+: text → (rewrite tokens text).length < text.length := by
  fun_induction rewrite tokens text with
  | case1 text name found ih =>
      have long := (shortestSpan?_eq_some found).2.four_le
      have shorter := ih.1
      rw [List.length_drop] at shorter
      rw [blank, List.length_append]
      refine ⟨?_, ?_⟩
      · simp only [String.toList_empty, List.length_nil]
        omega
      · intro other _ _ _
        simp only [String.toList_empty, List.length_nil]
        omega
  | case2 found =>
      refine ⟨Nat.le_refl _, ?_⟩
      intro name _ _ occurs
      cases List.infix_nil.mp occurs
  | case3 c rest found ih =>
      obtain ⟨kept, shorter⟩ := ih
      rw [List.length_cons, List.length_cons]
      refine ⟨Nat.succ_le_succ kept, ?_⟩
      intro name bound unpaired occurs
      rcases List.infix_cons_iff.mp occurs with here | later
      · exact absurd ⟨unpaired, here⟩ (not_spansAt_of_shortestSpan? found bound)
      · exact Nat.succ_lt_succ (shorter name bound unpaired later)

theorem get?_single (name value other : String) :
    (Tokens.ofList [(name, value)]).get? other = if other = name then some value else none :=
  Tokens.get?_insert Tokens.empty name value other

theorem expand_ne_iff {text name : String} (unpaired : ¬ ['}', '}'] <:+: name.toList) :
    (∃ value, expand text (Tokens.ofList [(name, value)]) ≠ text) ↔
      written name.toList <:+: text.toList := by
  constructor
  · intro ⟨value, changed⟩
    by_contra absent
    apply changed
    apply String.toList_injective
    rw [toList_expand]
    apply rewrite_eq_self
    intro other bound
    rw [get?_single] at bound
    split at bound
    next same => rwa [same]
    next => cases bound
  · intro occurs
    refine ⟨"", ?_⟩
    have blank (other : String) : ((Tokens.ofList [(name, "")]).get? other).getD "" = "" := by
      rw [get?_single]
      split <;> rfl
    have bound : ((Tokens.ofList [(name, "")]).get? name).isSome = true := by
      rw [get?_single, if_pos rfl]
      rfl
    have shorter := (length_rewrite_of_blank blank text.toList).2 name bound unpaired occurs
    intro same
    have lengths := congrArg (fun result => result.toList.length) same
    simp only [toList_expand] at lengths
    omega

/-- A name without braces is replaced exactly where its span occurs, and it is listed exactly where
its span occurs with no opener left open before it. -/
theorem replaced_iff_and_listed_iff (text name : String) (unopened : '{' ∉ name.toList)
    (unclosed : '}' ∉ name.toList) :
    ((∃ value, expand text (Tokens.ofList [(name, value)]) ≠ text) ↔
        ∃ before after, text.toList = before ++ (written name.toList ++ after)) ∧
      (name ∈ tokenNames text ↔
        ∃ before after, text.toList = before ++ (written name.toList ++ after) ∧
          ¬ LeavesOpen before) := by
  constructor
  · rw [expand_ne_iff (unpaired_of_plain unclosed)]
    constructor
    · intro ⟨before, after, same⟩
      exact ⟨before, after, by rw [← same, List.append_assoc]⟩
    · intro ⟨before, after, same⟩
      exact ⟨before, after, by rw [same, List.append_assoc]⟩
  · rw [mem_tokenNames_iff_atom]
    exact token_mem_atomsOf_iff unopened unclosed text.toList

/-- A span of `k` that begins after an opener which is still open. -/
def nestedSpan : String := "\x7b\x7ba\x7b\x7bk\x7d\x7d"

theorem nestedSpan_replaced_not_listed :
    (∃ value, expand nestedSpan (Tokens.ofList [("k", value)]) ≠ nestedSpan) ∧
      "k" ∉ tokenNames nestedSpan ∧
      ∀ before after, nestedSpan.toList = before ++ (written "k".toList ++ after) →
        LeavesOpen before := by
  obtain ⟨replaced, listed⟩ :=
    replaced_iff_and_listed_iff nestedSpan "k" (by decide) (by decide)
  have unlisted : "k" ∉ tokenNames nestedSpan := by decide +kernel
  refine ⟨replaced.mpr ⟨"\x7b\x7ba".toList, [], by decide⟩, unlisted, ?_⟩
  intro before after same
  by_contra free
  exact unlisted (listed.mpr ⟨before, after, same, free⟩)

/-- Not every name without braces that expansion can replace is listed. -/
theorem not_every_replaced_name_is_listed :
    ¬ ∀ text name : String, '{' ∉ name.toList → '}' ∉ name.toList →
      (∃ value, expand text (Tokens.ofList [(name, value)]) ≠ text) → name ∈ tokenNames text := by
  intro every
  have occurs : written "k".toList <:+: nestedSpan.toList := ⟨"\x7b\x7ba".toList, [], by decide⟩
  have replaced := (expand_ne_iff (unpaired_of_plain (by decide))).mpr occurs
  have listed := every nestedSpan "k" (by decide) (by decide) replaced
  revert listed
  decide +kernel

end Scaffold.Template
