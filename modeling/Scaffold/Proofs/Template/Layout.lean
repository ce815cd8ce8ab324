import Mathlib.Data.Finset.Dedup
import Mathlib.Data.Finset.Insert
import Scaffold.Proofs.Template.Division

/-! Values do not steer an expansion.

Which spans of a text are replaced depends on the text and on the bound names alone. So there is one
division for all token sets with these names, and an expansion puts a value in the place of each
span, whatever braces the values hold. Main statement: `exists_layout`. -/

set_option autoImplicit false

namespace Scaffold.Template

variable {isBound : String → Bool} {text literal : List Char} {name : String}

/-- The parts of a division that stand outside its spans, in order. -/
def Division.literals (division : Division) : List (List Char) :=
  division.front :: division.spans.map Prod.snd

theorem Division.front_begins (division : Division) : division.front <+: division.text :=
  List.prefix_append _ _

/-- The division of a text at the spans that expansion finds for some names. -/
def layout (isBound : String → Bool) (text : List Char) : Division :=
  Division.ofPieces (atomsOf (boundRule isBound) text)

theorem text_layout (isBound : String → Bool) (text : List Char) :
    (layout isBound text).text = text :=
  (Division.text_ofPieces _).trans (flatMap_source_atomsOf _ text)

theorem layout_of_span {token rest : List Char}
    (span : spanAt (boundRule isBound) text = some (token, rest)) :
    layout isBound text =
      ⟨[], (String.ofList token, (layout isBound rest).front) :: (layout isBound rest).spans⟩ := by
  rw [layout, atomsOf_of_span span]
  rfl

theorem layout_of_no_span {c : Char} {rest : List Char}
    (missing : spanAt (boundRule isBound) (c :: rest) = none) :
    layout isBound (c :: rest) =
      ⟨c :: (layout isBound rest).front, (layout isBound rest).spans⟩ := by
  rw [layout, atomsOf_of_no_span missing]
  rfl

theorem mem_names_layout (member : name ∈ (layout isBound text).names) :
    isBound name = true ∧ ¬ ['}', '}'] <:+: name.toList := by
  fun_induction atomsOf (boundRule isBound) text with
  | case1 text token rest span ih =>
      rw [layout_of_span span] at member
      rcases List.mem_cons.mp member with rfl | later
      · obtain ⟨bound, spans, -⟩ := spanAt_boundRule span
        exact ⟨bound, spans.1⟩
      · exact ih later
  | case2 missing =>
      rw [layout, atomsOf_nil] at member
      cases member
  | case3 c rest missing ih =>
      rw [layout_of_no_span missing] at member
      exact ih member

theorem spansAt_of_begins (unpaired : ¬ ['}', '}'] <:+: name.toList)
    (begins : written name.toList <+: text) : SpansAt text name :=
  ⟨unpaired, begins⟩

/-- What is left of a text between the spans holds no span of any of the names. -/
theorem not_written_in_literals_layout (bound : isBound name = true)
    (unpaired : ¬ ['}', '}'] <:+: name.toList)
    (member : literal ∈ (layout isBound text).literals) : ¬ written name.toList <:+: literal := by
  -- By induction along the scan, which passes every place of a literal part.
  have nowhere : ¬ written name.toList <:+: [] := by
    intro inside
    cases List.infix_nil.mp inside
  fun_induction atomsOf (boundRule isBound) text generalizing literal with
  | case1 text token rest span ih =>
      rw [layout_of_span span] at member
      rcases List.mem_cons.mp member with rfl | later
      · exact nowhere
      · exact ih later
  | case2 missing =>
      rw [layout, atomsOf_nil] at member
      cases List.mem_singleton.mp member
      exact nowhere
  | case3 c rest missing ih =>
      rw [layout_of_no_span missing] at member
      rcases List.mem_cons.mp member with rfl | later
      · intro inside
        rcases List.infix_cons_iff.mp inside with here | deeper
        · have front : c :: (layout isBound rest).front <+: c :: rest := by
            have begins := (layout isBound rest).front_begins
            rw [text_layout] at begins
            exact List.cons_prefix_cons.mpr ⟨rfl, begins⟩
          have spanned := spanAt_isSome_of_spansAt bound
            (spansAt_of_begins unpaired (here.trans front))
          rw [missing] at spanned
          cases spanned
        · exact ih List.mem_cons_self deeper
      · exact ih (List.mem_cons_of_mem _ later)

theorem expand_eq_fill_layout (text : String) (tokens : Tokens) :
    expand text tokens = String.ofList
      ((layout (fun name => (tokens.get? name).isSome) text.toList).fill tokens.get?) := by
  rw [expand, expandWith_eq fun _ bound => Tokens.le_longestName bound, layout,
    Division.fill_ofPieces]

/-- For every set of names a text has one division at spans of these names, with none of their spans
left between, that all expansions with these names fill, whatever the values are. -/
theorem exists_layout (text : String) (keys : Finset String) :
    ∃ division : Division, division.text = text.toList ∧
      (∀ name ∈ division.names, name ∈ keys) ∧
      (∀ literal ∈ division.literals, ∀ name ∈ keys, ¬ ['}', '}'] <:+: name.toList →
        ¬ written name.toList <:+: literal) ∧
      ∀ tokens : Tokens, tokens.names.toFinset = keys →
        expand text tokens = String.ofList (division.fill tokens.get?) := by
  refine ⟨layout (fun name => decide (name ∈ keys)) text.toList, text_layout _ _, ?_, ?_, ?_⟩
  · intro name member
    exact of_decide_eq_true (mem_names_layout member).1
  · intro literal member name key unpaired
    exact not_written_in_literals_layout (decide_eq_true key) unpaired member
  · intro tokens same
    have bound : (fun name => decide (name ∈ keys)) = fun name => (tokens.get? name).isSome := by
      funext name
      rw [Bool.eq_iff_iff, decide_eq_true_eq, ← same, List.mem_toFinset, tokens.mem_names_iff]
    rw [bound]
    exact expand_eq_fill_layout text tokens

/-- Values that hold braces, a span of another name, and a span of their own. -/
def bracedTokens : Tokens :=
  .ofList [("a", "\x7b\x7bb\x7d\x7d"), ("b", "\x7d\x7d\x7b\x7bb\x7d\x7d\x7b\x7b")]

theorem exists_layout_of_braceRuns :
    ∃ division : Division, division.text = braceRuns.toList ∧
      (∀ name ∈ division.names, name ∈ ({"a", "b"} : Finset String)) ∧
      bracedTokens.names.toFinset = {"a", "b"} ∧
      expand braceRuns bracedTokens = String.ofList (division.fill bracedTokens.get?) ∧
      expand braceRuns bracedTokens =
        "\x7b\x7b\x7bb\x7d\x7d\x7d\x7d\x7d\x7b\x7bb\x7d\x7d\x7b\x7b\x7b\x7bb\x7d\x7d\x7b\x7bc" := by
  obtain ⟨division, whole, names, -, filled⟩ := exists_layout braceRuns {"a", "b"}
  have keys : bracedTokens.names.toFinset = {"a", "b"} := by decide
  refine ⟨division, whole, names, keys, filled bracedTokens keys, ?_⟩
  decide +kernel

end Scaffold.Template
