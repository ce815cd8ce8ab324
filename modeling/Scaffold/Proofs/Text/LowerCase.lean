import Scaffold.Unicode.LowerCase

/-! What the lower case of a text can contain.

Digits, capitals and most punctuation of ASCII come before its small letters, which begin at `0x61`,
and a lower-case form that differs from its character never does. So the lower case of a text has of
these characters only what the text has. -/

set_option autoImplicit false

namespace Scaffold.Unicode

variable {c found : Char} {code : Nat}

theorem le_of_mem_lowerCaseRows : ∀ row ∈ lowerCaseRows, 0x61 ≤ row.1 + row.2.2.2 := by
  decide +kernel

theorem le_toNat_ofNat (least : 0x61 ≤ code) (valid : Char.ofNat code ≠ '\x00') :
    0x61 ≤ (Char.ofNat code).toNat := by
  by_cases fits : code.isValidChar
  · have shown : Char.ofNat code = Char.ofNatAux code fits := dif_pos fits
    rw [shown]
    exact least
  · have nothing : Char.ofNat code = '\x00' := dif_neg fits
    exact absurd nothing valid

theorem le_toNat_toLower (changed : c.toLower ≠ c) : 0x61 ≤ c.toLower.toNat := by
  unfold Char.toLower at changed ⊢
  split at changed
  next capital =>
    have first : 65 ≤ c.val.toNat := capital.1
    have last : c.val.toNat ≤ 90 := capital.2
    have shifted : (c.val + ('a'.val - 'A'.val)).toNat = (c.val.toNat + 32) % 2 ^ 32 :=
      UInt32.toNat_add _ _
    rw [dif_pos capital, Char.toNat, shifted]
    omega
  next => exact absurd rfl changed

theorem le_toNat_lowerChar (changed : lowerChar c ≠ c) (valid : lowerChar c ≠ '\x00') :
    0x61 ≤ (lowerChar c).toNat := by
  rw [lowerChar] at changed valid ⊢
  split
  next ascii =>
    rw [if_pos ascii] at changed
    exact le_toNat_toLower changed
  next beyond =>
    rw [if_neg beyond] at changed valid
    split at changed
    next first last stride shift row =>
      have bounds := List.find?_some row
      have least := le_of_mem_lowerCaseRows _ (List.mem_of_find?_eq_some row)
      simp only [Bool.and_eq_true, decide_eq_true_eq] at bounds least
      rw [row] at valid
      exact le_toNat_ofNat (by omega) valid
    next => exact absurd rfl changed

theorem mem_of_mem_lowerFrom {before text : List Char} (below : found.toNat < 0x61)
    (valid : found ≠ '\x00') (member : found ∈ lowerFrom before text) : found ∈ text := by
  induction text generalizing before with
  | nil => exact member
  | cons c rest ih =>
      rw [lowerFrom, List.mem_append] at member
      cases member with
      | inr later => exact List.mem_cons_of_mem c (ih later)
      | inl here =>
          have high (letter : Char) (least : 0x61 ≤ letter.toNat) : found ≠ letter := by
            intro same
            exact absurd (same ▸ below) (Nat.not_lt.mpr least)
          split at here
          · split at here
            · exact absurd (List.mem_singleton.mp here) (high 'ς' (by decide))
            · exact absurd (List.mem_singleton.mp here) (high 'σ' (by decide))
          · split at here
            · simp [high 'i' (by decide), high '\u0307' (by decide)] at here
            · have same := List.mem_singleton.mp here
              by_cases changed : lowerChar c = c
              · exact List.mem_cons.mpr (.inl (same.trans changed))
              · exact absurd same (high (lowerChar c) (le_toNat_lowerChar changed (same ▸ valid)))

/-- The lower case of a text has a character before the small letters only if the text has it. -/
theorem mem_of_mem_lower {text : String} (below : found.toNat < 0x61)
    (valid : found ≠ '\x00') (member : found ∈ (lower text).toList) : found ∈ text.toList := by
  rw [lower, String.toList_ofList] at member
  exact mem_of_mem_lowerFrom below valid member

end Scaffold.Unicode
