import Scaffold.Proofs.Template.Rewriting

/-! Layers of tokens.

A name that is bound in several layers counts as the uppermost layer binds it. An expansion looks
only at what names are bound to, so looking through two layers and laying one over the other come to
the same (`expandLayered_eq`). -/

set_option autoImplicit false

namespace Scaffold

namespace Tokens

theorem get?_foldl_insert (bindings : List (String × String)) (lower : Tokens)
    (distinct : (bindings.map Prod.fst).Nodup) (name : String) :
    (bindings.foldl (fun tokens binding => tokens.insert binding.1 binding.2) lower).get? name =
      (bindings.lookup name).or (lower.get? name) := by
  induction bindings generalizing lower with
  | nil => rfl
  | cons binding rest ih =>
      obtain ⟨key, text⟩ := binding
      obtain ⟨fresh, later⟩ := List.nodup_cons.mp distinct
      rw [List.foldl_cons, ih (lower.insert key text) later, get?_insert, lookup_binding]
      by_cases same : name = key
      · have missing : rest.lookup name = none := by
          rw [same, List.lookup_eq_none_iff]
          intro other member
          apply bne_iff_ne.mpr
          intro equal
          exact fresh (List.mem_map.mpr ⟨other, member, equal.symm⟩)
        rw [missing, if_pos same, if_pos same]
        rfl
      · rw [if_neg same, if_neg same]

theorem get?_overlay (lower upper : Tokens) (name : String) :
    (lower.overlay upper).get? name = (upper.get? name).or (lower.get? name) :=
  get?_foldl_insert upper.bindings lower upper.names_distinct name

theorem get?_overlay_assoc (lower middle upper : Tokens) (name : String) :
    ((lower.overlay middle).overlay upper).get? name =
      (lower.overlay (middle.overlay upper)).get? name := by
  simp only [get?_overlay, Option.or_assoc]

end Tokens

namespace Template

/-- An expansion depends on what names are bound to and on nothing else, as long as no bound name is
too long to be looked up. -/
theorem expandWith_congr {longest other : Nat} {value values : String → Option String}
    (bounded : ∀ name, (value name).isSome = true → name.utf8ByteSize ≤ longest)
    (bounded' : ∀ name, (values name).isSome = true → name.utf8ByteSize ≤ other)
    (same : ∀ name, value name = values name) (text : String) :
    expandWith longest value text = expandWith other values text := by
  obtain rfl : value = values := funext same
  rw [expandWith_eq bounded, expandWith_eq bounded']

theorem expand_congr {tokens others : Tokens}
    (same : ∀ name, tokens.get? name = others.get? name) (text : String) :
    expand text tokens = expand text others :=
  expandWith_congr (fun _ => Tokens.le_longestName) (fun _ => Tokens.le_longestName) same text

theorem expandLayered_eq (text : String) (lower upper : Tokens) :
    expandLayered text lower upper = expand text (lower.overlay upper) := by
  apply expandWith_congr
  · intro name bound
    rw [Option.isSome_or, Bool.or_eq_true] at bound
    rcases bound with above | below
    · exact le_trans (Tokens.le_longestName above) (le_max_left _ _)
    · exact le_trans (Tokens.le_longestName below) (le_max_right _ _)
  · intro name
    exact Tokens.le_longestName
  · intro name
    exact (Tokens.get?_overlay lower upper name).symm

end Template

end Scaffold
