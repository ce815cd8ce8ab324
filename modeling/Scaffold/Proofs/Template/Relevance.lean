import Scaffold.Proofs.Template.Listing

/-! Names that matter to a text.

A name that has no span in a text is looked up there in vain, if at all. So an expansion depends only
on what those names are bound to that have one (`expand_congr_of_occurs`), and a binding of any other
name changes nothing. Main statement: `expand_insert_of_absent`. -/

set_option autoImplicit false

namespace Scaffold

namespace Tokens

def erase (tokens : Tokens) (name : String) : Tokens :=
  ⟨tokens.bindings.filter fun binding => binding.1 != name,
    tokens.names_distinct.sublist (List.filter_sublist.map Prod.fst)⟩

theorem lookup_filter_ne (name other : String) (bindings : List (String × String)) :
    (bindings.filter fun binding => binding.1 != name).lookup other =
      if other = name then none else bindings.lookup other := by
  induction bindings with
  | nil => simp
  | cons binding rest ih =>
      obtain ⟨key, text⟩ := binding
      by_cases erased : key = name
      · subst erased
        simp only [List.filter_cons, bne_self_eq_false, Bool.false_eq_true, if_false, ih,
          lookup_binding]
        split <;> rfl
      · have kept : (key != name) = true := bne_iff_ne.mpr erased
        rw [List.filter_cons, if_pos kept, lookup_binding, lookup_binding, ih]
        by_cases here : other = key
        · rw [if_pos here, if_pos here, if_neg (here ▸ erased)]
        · rw [if_neg here, if_neg here]

theorem get?_erase (tokens : Tokens) (name other : String) :
    (tokens.erase name).get? other = if other = name then none else tokens.get? other :=
  lookup_filter_ne name other tokens.bindings

end Tokens

namespace Template

variable {tokens others : Tokens} {text back : List Char} {name : String}

/-- A name has a span somewhere in a text. A name that holds `}}` has none. -/
def Occurs (text : List Char) (name : String) : Prop :=
  ¬ ['}', '}'] <:+: name.toList ∧ written name.toList <:+: text

theorem SpansAt.occurs (spans : SpansAt text name) : Occurs text name :=
  ⟨spans.1, spans.2.isInfix⟩

theorem Occurs.of_suffix (ends : back <:+ text) (occurs : Occurs back name) : Occurs text name :=
  ⟨occurs.1, occurs.2.trans ends.isInfix⟩

theorem occurs_of_spanAt {rule : Rule} {token rest : List Char}
    (span : spanAt rule text = some (token, rest)) (occurs : Occurs rest name) :
    Occurs text name := by
  rw [spanAt_sound span]
  exact occurs.of_suffix ⟨'{' :: '{' :: token ++ ['}', '}'], by simp⟩

theorem spanAt_boundRule_congr {isBound isKnown : String → Bool}
    (same : ∀ name, SpansAt text name → isBound name = isKnown name) :
    spanAt (boundRule isBound) text = spanAt (boundRule isKnown) text := by
  unfold spanAt
  split
  next inside =>
      cases split : splitPair '}' inside with
      | none => rfl
      | some pair =>
          obtain ⟨first, after⟩ := pair
          obtain ⟨nearer, farther⟩ := spansAt_of_split split
          simp only [Option.bind_some, boundRule, same _ nearer]
          by_cases third : after.head? = some '}'
          · rw [same _ (farther third)]
          · simp only [third, false_and, if_false]
  next => rfl

theorem spanAt_congr_of_occurs
    (same : ∀ name, Occurs text name → tokens.get? name = others.get? name) :
    spanAt (boundRule fun name => (tokens.get? name).isSome) text =
      spanAt (boundRule fun name => (others.get? name).isSome) text :=
  spanAt_boundRule_congr fun name spans => congrArg Option.isSome (same name spans.occurs)

theorem rewrite_congr_of_occurs
    (same : ∀ name, Occurs text name → tokens.get? name = others.get? name) :
    rewrite tokens text = rewrite others text := by
  rw [← flatMap_atomsOf_eq_rewrite, ← flatMap_atomsOf_eq_rewrite]
  fun_induction atomsOf (boundRule fun name => (tokens.get? name).isSome) text with
  | case1 text token rest span ih =>
      have taken := span
      rw [spanAt_congr_of_occurs same] at taken
      have value := same _ (spanAt_boundRule span).2.1.occurs
      rw [atomsOf_of_span taken, List.flatMap_cons, List.flatMap_cons,
        ih fun name occurs => same name (occurs_of_spanAt span occurs)]
      simp only [Piece.fill, value]
  | case2 missing =>
      rw [atomsOf_nil]
      rfl
  | case3 c rest missing ih =>
      have untaken := missing
      rw [spanAt_congr_of_occurs same] at untaken
      rw [atomsOf_of_no_span untaken, List.flatMap_cons, List.flatMap_cons,
        ih fun name occurs => same name (occurs.of_suffix (List.suffix_cons c rest))]
      rfl

theorem expand_congr_of_occurs {text : String}
    (same : ∀ name, Occurs text.toList name → tokens.get? name = others.get? name) :
    expand text tokens = expand text others := by
  apply String.toList_injective
  rw [toList_expand, toList_expand, rewrite_congr_of_occurs same]

theorem expand_empty (text : String) : expand text Tokens.empty = text := by
  apply String.toList_injective
  rw [toList_expand]
  apply rewrite_eq_self
  intro name bound
  cases bound

theorem not_occurs (absent : ['}', '}'] <:+: name.toList ∨ ¬ written name.toList <:+: text) :
    ¬ Occurs text name := by
  intro occurs
  rcases absent with paired | unwritten
  · exact occurs.1 paired
  · exact unwritten occurs.2

/-- A name that holds `}}`, or whose span is nowhere in a text, can be bound to anything or to
nothing without a change to the expansion; where all bound names are so the text stays as it is. -/
theorem expand_insert_of_absent (text : String) :
    (∀ (tokens : Tokens) (name value : String),
        ['}', '}'] <:+: name.toList ∨ ¬ written name.toList <:+: text.toList →
          expand text (tokens.insert name value) = expand text (tokens.erase name)) ∧
      ∀ tokens : Tokens,
        (∀ name ∈ tokens.names,
          ['}', '}'] <:+: name.toList ∨ ¬ written name.toList <:+: text.toList) →
            expand text tokens = text := by
  constructor
  · intro tokens name value absent
    apply expand_congr_of_occurs
    intro other occurs
    have apart : other ≠ name := by
      rintro rfl
      exact not_occurs absent occurs
    rw [Tokens.get?_insert, Tokens.get?_erase, if_neg apart, if_neg apart]
  · intro tokens absent
    have bare : expand text tokens = expand text Tokens.empty := by
      apply expand_congr_of_occurs
      intro name occurs
      rw [Tokens.get?_empty, ← Option.not_isSome_iff_eq_none]
      intro bound
      exact not_occurs (absent name ((tokens.mem_names_iff name).mpr bound)) occurs
    rw [bare, expand_empty]

/-- Beside the span of `a`, one that never closes and one that closes too early. -/
def brokenSpans : String := "\x7b\x7ba\x7d\x7d\x7b\x7blonger\x7d\x7b\x7ba\x7d\x7d"

theorem expand_insert_of_absent_brokenSpans :
    (¬ written "longer".toList <:+: brokenSpans.toList) ∧
      ['}', '}'] <:+: "a\x7d\x7d".toList ∧
      expand brokenSpans ((Tokens.ofList [("a", "1")]).insert "longer" "2") =
        expand brokenSpans ((Tokens.ofList [("a", "1")]).erase "longer") ∧
      expand brokenSpans (Tokens.ofList [("longer", "2"), ("a\x7d\x7d", "3")]) = brokenSpans := by
  have unwritten : ¬ written "longer".toList <:+: brokenSpans.toList := by decide
  have paired : ['}', '}'] <:+: "a\x7d\x7d".toList := by decide
  obtain ⟨inert, unchanged⟩ := expand_insert_of_absent brokenSpans
  refine ⟨unwritten, paired, inert _ "longer" "2" (.inr unwritten), unchanged _ ?_⟩
  intro name bound
  have either : name = "longer" ∨ name = "a\x7d\x7d" := by
    simpa [Tokens.ofList, Tokens.names, Tokens.insert, Tokens.empty] using bound
  rcases either with rfl | rfl
  · exact .inr unwritten
  · exact .inl paired

end Template

end Scaffold
