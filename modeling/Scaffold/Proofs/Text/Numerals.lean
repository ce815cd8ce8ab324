import Mathlib.Data.Nat.Digits.Defs

/-! Numerals.

`IsDigits` says which number some digits stand for, by position and without a bound. Printing a
number gives digits that stand for it (`isDigits_toDigits`), and no zero in front of others
(`eq_zero_of_toDigits`). -/

set_option autoImplicit false

namespace Scaffold.Text

variable {base value : Nat} {text : List Char}

/-- One or more digits of a base and the number they stand for; the first digit weighs most. -/
def IsDigits (base : Nat) (text : List Char) (value : Nat) : Prop :=
  ∃ digits : List Nat, digits ≠ [] ∧ (∀ digit ∈ digits, digit < base) ∧
    text = digits.map Nat.digitChar ∧ value = Nat.ofDigits base digits.reverse

theorem IsDigits.ne_nil (written : IsDigits base text value) : text ≠ [] := by
  obtain ⟨digits, present, -, rfl, -⟩ := written
  simpa using present

theorem IsDigits.isDigit (written : IsDigits base text value) (base_le : base ≤ 10) :
    ∀ c ∈ text, c.isDigit = true := by
  obtain ⟨digits, -, small, rfl, -⟩ := written
  intro c member
  obtain ⟨digit, listed, rfl⟩ := List.mem_map.mp member
  have below := small digit listed
  rw [Nat.isDigit_digitChar]
  exact decide_eq_true (by omega)

theorem IsDigits.head_ne (written : IsDigits base text value) (base_le : base ≤ 10) {c : Char}
    (apart : c.isDigit = false) : text.head? ≠ some c := by
  intro first
  have digit := written.isDigit base_le c (List.mem_of_head? first)
  rw [apart] at digit
  cases digit

/-! ### Printed numbers -/

theorem isDigits_toDigits (one_lt : 1 < base) (number : Nat) :
    IsDigits base (Nat.toDigits base number) number := by
  induction number using Nat.strongRecOn with
  | ind number ih =>
      by_cases small : number < base
      · rw [Nat.toDigits_of_lt_base small]
        exact ⟨[number], by simp, by simpa using small, rfl, by simp⟩
      · have less : number / base < number := Nat.div_lt_self (by omega) one_lt
        obtain ⟨digits, -, below, shown, total⟩ := ih (number / base) less
        have last : number % base < base := Nat.mod_lt _ (by omega)
        rw [Nat.toDigits_of_base_le one_lt (by omega), shown]
        refine ⟨digits ++ [number % base], by simp, ?_, by simp, ?_⟩
        · intro digit member
          rcases List.mem_append.mp member with earlier | final
          · exact below digit earlier
          · rw [List.mem_singleton.mp final]
            exact last
        · rw [List.reverse_append, List.reverse_singleton, List.singleton_append,
            Nat.ofDigits_cons, ← total]
          exact (Nat.mod_add_div number base).symm

theorem eq_zero_of_toDigits {number : Nat} {digits : List Char}
    (shown : Nat.toDigits 10 number = '0' :: digits) : number = 0 := by
  induction number using Nat.strongRecOn generalizing digits with
  | ind number ih =>
      rw [Nat.toDigits_eq_if (by decide)] at shown
      split at shown
      next small =>
          have table : ∀ value < 10, Nat.digitChar value = '0' → value = 0 := by decide
          exact table number small (List.cons.inj shown).1
      next =>
          cases front : Nat.toDigits 10 (number / 10) with
          | nil => exact absurd front Nat.toDigits_ne_nil
          | cons first more =>
              rw [front, List.cons_append] at shown
              rw [(List.cons.inj shown).1] at front
              have zero := ih (number / 10) (by omega) front
              omega

end Scaffold.Text
