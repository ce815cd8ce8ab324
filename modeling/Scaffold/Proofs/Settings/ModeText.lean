import Mathlib.Data.List.TakeWhile
import Mathlib.Tactic.Ring
import Scaffold.Proofs.Text.Numerals
import Scaffold.Settings.Mode

/-! Which texts write a mode, and which one.

The reader goes digit by digit and gives up where the number no longer fits into 32 bits. Here a
number is the positional sum of its digits, of any size, and the spellings of a mode are listed
without the reader. Main statement: `read_mode_iff_spelled`: exactly the spellings of numbers below
`2 ^ 32` are read, each as its number, and a spelling of a larger number is too large. -/

set_option autoImplicit false

namespace Scaffold

/-! ### White space around a text -/

namespace Unicode

variable {lead body trail text : List Char}

def IsBlank (text : List Char) : Prop := ∀ c ∈ text, isWhiteSpace c = true

theorem IsBlank.reverse (blank : IsBlank text) : IsBlank text.reverse :=
  fun c member => blank c (List.mem_reverse.mp member)

theorem dropWhile_blank_append (blank : IsBlank lead)
    (solid : ∀ c, body.head? = some c → isWhiteSpace c = false) :
    (lead ++ body).dropWhile isWhiteSpace = body := by
  rw [List.dropWhile_append_of_pos blank]
  cases body with
  | nil => rfl
  | cons c body =>
      apply List.dropWhile_cons_of_neg
      rw [solid c rfl]
      decide

/-- Trimming takes off the white space around a text that has none inside. -/
theorem trim_surrounded (before : IsBlank lead) (after : IsBlank trail) (present : body ≠ [])
    (solid : ∀ c ∈ body, isWhiteSpace c = false) : trim (lead ++ body ++ trail) = body := by
  have front : (lead ++ (body ++ trail)).dropWhile isWhiteSpace = body ++ trail := by
    apply dropWhile_blank_append before
    intro c first
    obtain ⟨d, rest, rfl⟩ := List.exists_cons_of_ne_nil present
    cases Option.some.inj first
    exact solid c List.mem_cons_self
  have back : (trail.reverse ++ body.reverse).dropWhile isWhiteSpace = body.reverse := by
    apply dropWhile_blank_append after.reverse
    intro c first
    exact solid c (List.mem_reverse.mp (List.mem_of_head? first))
  rw [trim, List.append_assoc, front, List.reverse_append, back, List.reverse_reverse]

theorem exists_surrounding (text : List Char) :
    ∃ lead trail, IsBlank lead ∧ IsBlank trail ∧ text = lead ++ trim text ++ trail := by
  have blank (text : List Char) : IsBlank (text.takeWhile isWhiteSpace) :=
    fun c member => List.mem_takeWhile_imp member
  refine ⟨_, _, blank text, (blank (text.dropWhile isWhiteSpace).reverse).reverse, ?_⟩
  rw [trim, List.append_assoc, ← List.reverse_append, List.takeWhile_append_dropWhile,
    List.reverse_reverse, List.takeWhile_append_dropWhile]

theorem isWhiteSpace_of_visible {c : Char} (first : 33 ≤ c.toNat) (last : c.toNat ≤ 126) :
    isWhiteSpace c = false := by
  simp only [isWhiteSpace, inRanges, whiteSpaceRanges, List.any_cons, List.any_nil,
    Bool.or_false, Bool.or_eq_false_iff, Bool.and_eq_false_iff, decide_eq_false_iff_not]
  omega

end Unicode

namespace Mode

open Scaffold.Text Scaffold.Unicode

variable {base value result : Nat} {digits : List Nat} {text : List Char}

/-! ### Numbers as they are written -/

def IsNumber (base : Nat) (text : List Char) (value : Nat) : Prop :=
  IsDigits base text value ∨ ∃ digits, text = '+' :: digits ∧ IsDigits base digits value

/-- The spellings of a mode: octal after `0o` or `0`, decimal where no `0` leads further digits. -/
inductive Spells : List Char → Nat → Prop
  | marked {number : List Char} {value : Nat} (octal : IsNumber 8 number value) :
      Spells ('0' :: 'o' :: number) value
  | leadingZero {number : List Char} {value : Nat} (octal : IsNumber 8 number value) :
      Spells ('0' :: number) value
  | decimal {number : List Char} {value : Nat} (plain : number.head? = some '0' → number = ['0'])
      (decimal : IsNumber 10 number value) : Spells number value

theorem isDigitOf_digitChar {digit : Nat} (small : digit < base) (base_le : base ≤ 10) :
    isDigitOf base digit.digitChar = true := by
  have decimal : digit < 10 := by omega
  simp [isDigitOf, Nat.isDigit_digitChar, Nat.toNat_digitChar_sub_48_of_lt_ten decimal, decimal,
    small]

theorem exists_digit_of_isDigitOf {c : Char} (digit : isDigitOf base c = true) :
    ∃ value < base, c = value.digitChar := by
  simp only [isDigitOf, Bool.and_eq_true, decide_eq_true_eq] at digit
  obtain ⟨decimal, small⟩ := digit
  have bounds : 48 ≤ c.toNat ∧ c.toNat ≤ 57 := Char.isDigit_iff_toNat.mp decimal
  refine ⟨c.toNat - 48, small, ?_⟩
  apply Char.toNat_inj.mp
  rw [Nat.toNat_digitChar_of_lt_ten (by omega)]
  omega

/-! ### Digit by digit -/

/-- The digits that follow a number which fits are all read, or lead to a number that is too large,
and it does not matter at which digit that shows. -/
theorem readDigits_map (base_le : base ≤ 10) (small : ∀ digit ∈ digits, digit < base)
    (fits : value < UInt32.size) :
    readDigits base value (digits.map Nat.digitChar) =
      if value * base ^ digits.length + Nat.ofDigits base digits.reverse < UInt32.size then
        .ok (value * base ^ digits.length + Nat.ofDigits base digits.reverse)
      else .error .tooLarge := by
  induction digits generalizing value with
  | nil => simp [readDigits, fits]
  | cons digit digits ih =>
      have below := small digit List.mem_cons_self
      have total : value * base ^ (digit :: digits).length +
          Nat.ofDigits base (digit :: digits).reverse =
            (value * base + digit) * base ^ digits.length + Nat.ofDigits base digits.reverse := by
        rw [Nat.ofDigits_reverse_cons, List.length_cons]
        ring
      rw [total, List.map_cons, readDigits, isDigitOf_digitChar below base_le,
        Nat.toNat_digitChar_sub_48_of_lt_ten (by omega)]
      simp only [Bool.not_true, Bool.false_eq_true, if_false]
      by_cases next : value * base + digit < UInt32.size
      · rw [if_pos next, ih (fun later member => small later (List.mem_cons_of_mem _ member)) next]
      · -- Further digits never make a number smaller.
        have weight : 0 < base ^ digits.length := Nat.pow_pos (by omega)
        have grows := Nat.le_mul_of_pos_right (value * base + digit) weight
        rw [if_neg next, if_neg (by omega)]

theorem exists_digits_of_readDigits (accepted : readDigits base value text = .ok result) :
    ∃ digits : List Nat, (∀ digit ∈ digits, digit < base) ∧ text = digits.map Nat.digitChar := by
  induction text generalizing value with
  | nil => exact ⟨[], by simp, rfl⟩
  | cons c text ih =>
      rw [readDigits] at accepted
      split at accepted
      next => cases accepted
      next digit =>
          simp only at accepted
          split at accepted
          next =>
              obtain ⟨first, small, rfl⟩ := exists_digit_of_isDigitOf (by simpa using digit)
              obtain ⟨digits, smaller, rfl⟩ := ih accepted
              exact ⟨first :: digits, List.forall_mem_cons.mpr ⟨small, smaller⟩, rfl⟩
          next => cases accepted

theorem readDigits_of_isDigits (base_le : base ≤ 10) (written : IsDigits base text value) :
    readDigits base 0 text = if value < UInt32.size then .ok value else .error .tooLarge := by
  obtain ⟨digits, -, small, rfl, rfl⟩ := written
  rw [readDigits_map base_le small (by decide), Nat.zero_mul, Nat.zero_add]

theorem isDigits_of_readDigits (base_le : base ≤ 10) (present : text ≠ [])
    (accepted : readDigits base 0 text = .ok result) : IsDigits base text result := by
  obtain ⟨digits, small, rfl⟩ := exists_digits_of_readDigits accepted
  refine ⟨digits, fun none => present (by rw [none]; rfl), small, rfl, ?_⟩
  rw [readDigits_map base_le small (by decide), Nat.zero_mul, Nat.zero_add] at accepted
  split at accepted
  next => exact (Except.ok.inj accepted).symm
  next => cases accepted

theorem readNumber_unsigned (present : text ≠ []) (unsigned : text.head? ≠ some '+') :
    readNumber base text = readDigits base 0 text := by
  unfold readNumber
  split
  next => exact absurd rfl present
  next => exact absurd rfl unsigned
  next => exact absurd rfl unsigned
  next => rfl

theorem readNumber_signed (present : text ≠ []) :
    readNumber base ('+' :: text) = readDigits base 0 text := by
  obtain ⟨c, rest, rfl⟩ := List.exists_cons_of_ne_nil present
  rfl

theorem readNumber_of_isNumber (base_le : base ≤ 10) (written : IsNumber base text value) :
    readNumber base text = if value < UInt32.size then .ok value else .error .tooLarge := by
  rcases written with unsigned | ⟨digits, rfl, signed⟩
  · rw [readNumber_unsigned unsigned.ne_nil (unsigned.head_ne base_le (by decide)),
      readDigits_of_isDigits base_le unsigned]
  · rw [readNumber_signed signed.ne_nil, readDigits_of_isDigits base_le signed]

theorem isNumber_of_readNumber (base_le : base ≤ 10)
    (accepted : readNumber base text = .ok result) : IsNumber base text result := by
  by_cases present : text = []
  · subst present
    cases accepted
  · by_cases signed : text.head? = some '+'
    · obtain ⟨c, rest, rfl⟩ := List.exists_cons_of_ne_nil present
      cases Option.some.inj signed
      by_cases alone : rest = []
      · subst alone
        cases accepted
      · rw [readNumber_signed alone] at accepted
        exact .inr ⟨rest, rfl, isDigits_of_readDigits base_le alone accepted⟩
    · rw [readNumber_unsigned present signed] at accepted
      exact .inl (isDigits_of_readDigits base_le present accepted)

/-! ### The spellings of a mode -/

theorem readTrimmed_zero (present : text ≠ []) (unmarked : text.head? ≠ some 'o') :
    readTrimmed ('0' :: text) = readNumber 8 text := by
  obtain ⟨c, rest, rfl⟩ := List.exists_cons_of_ne_nil present
  unfold readTrimmed
  split
  next same =>
      cases same
      exact absurd rfl unmarked
  next same =>
      cases same
      rfl
  next other => exact absurd rfl (other c rest)

theorem readTrimmed_decimal (plain : text.head? = some '0' → text = ['0']) :
    readTrimmed text = readNumber 10 text := by
  unfold readTrimmed
  split
  next => cases plain rfl
  next => cases plain rfl
  next => rfl

theorem IsNumber.ne_nil (written : IsNumber base text value) : text ≠ [] := by
  rcases written with unsigned | ⟨digits, rfl, -⟩
  · exact unsigned.ne_nil
  · exact List.cons_ne_nil _ _

theorem IsNumber.head_ne_o (written : IsNumber base text value) (base_le : base ≤ 10) :
    text.head? ≠ some 'o' := by
  rcases written with unsigned | ⟨digits, rfl, -⟩
  · exact unsigned.head_ne base_le (by decide)
  · simp

theorem readTrimmed_of_spells (spells : Spells text value) :
    readTrimmed text = if value < UInt32.size then .ok value else .error .tooLarge := by
  cases spells with
  | marked octal => exact readNumber_of_isNumber (by decide) octal
  | leadingZero octal =>
      rw [readTrimmed_zero octal.ne_nil (octal.head_ne_o (by decide)),
        readNumber_of_isNumber (by decide) octal]
  | decimal plain decimal =>
      rw [readTrimmed_decimal plain, readNumber_of_isNumber (by decide) decimal]

theorem spells_of_readTrimmed (accepted : readTrimmed text = .ok result) : Spells text result := by
  unfold readTrimmed at accepted
  split at accepted
  next => exact .marked (isNumber_of_readNumber (by decide) accepted)
  next => exact .leadingZero (isNumber_of_readNumber (by decide) accepted)
  next unmarked unled =>
      refine .decimal ?_ (isNumber_of_readNumber (by decide) accepted)
      intro first
      cases text with
      | nil => cases first
      | cons c rest =>
          cases Option.some.inj first
          cases rest with
          | nil => rfl
          | cons d rest => exact absurd rfl (unled d rest)

theorem isWhiteSpace_of_isNumber (base_le : base ≤ 10) (written : IsNumber base text value) :
    ∀ c ∈ text, isWhiteSpace c = false := by
  have visible {text : List Char} (written : IsDigits base text value) :
      ∀ c ∈ text, isWhiteSpace c = false := by
    intro c member
    have bounds : 48 ≤ c.toNat ∧ c.toNat ≤ 57 :=
      Char.isDigit_iff_toNat.mp (written.isDigit base_le c member)
    exact isWhiteSpace_of_visible (by omega) (by omega)
  rcases written with unsigned | ⟨digits, rfl, signed⟩
  · exact visible unsigned
  · exact List.forall_mem_cons.mpr ⟨by decide, visible signed⟩

theorem Spells.isWhiteSpace (spells : Spells text value) :
    ∀ c ∈ text, isWhiteSpace c = false := by
  cases spells with
  | marked octal =>
      have visible := isWhiteSpace_of_isNumber (by decide) octal
      exact List.forall_mem_cons.mpr ⟨by decide, List.forall_mem_cons.mpr ⟨by decide, visible⟩⟩
  | leadingZero octal =>
      have visible := isWhiteSpace_of_isNumber (by decide) octal
      exact List.forall_mem_cons.mpr ⟨by decide, visible⟩
  | decimal plain decimal => exact isWhiteSpace_of_isNumber (by decide) decimal

theorem Spells.ne_nil (spells : Spells text value) : text ≠ [] := by
  cases spells with
  | marked octal => exact List.cons_ne_nil _ _
  | leadingZero octal => exact List.cons_ne_nil _ _
  | decimal plain decimal => exact decimal.ne_nil

def Writes (text : List Char) (value : Nat) : Prop :=
  ∃ lead body trail, IsBlank lead ∧ IsBlank trail ∧ text = lead ++ body ++ trail ∧
    Spells body value

theorem writes_of_spells {lead trail : List Char} (before : IsBlank lead) (after : IsBlank trail)
    (spells : Spells text value) : Writes (lead ++ text ++ trail) value :=
  ⟨lead, text, trail, before, after, rfl, spells⟩

theorem Writes.spells_trim (writes : Writes text value) : Spells (trim text) value := by
  obtain ⟨lead, body, trail, before, after, rfl, spells⟩ := writes
  rwa [trim_surrounded before after spells.ne_nil spells.isWhiteSpace]

theorem read_of_writes {text : String} (writes : Writes text.toList value) :
    read text =
      if value < UInt32.size then .ok (UInt32.ofNat value)
      else .error (String.ofList (trim text.toList), .tooLarge) := by
  have trimmed := readTrimmed_of_spells writes.spells_trim
  simp only [read]
  by_cases fits : value < UInt32.size
  · rw [if_pos fits] at trimmed ⊢
    rw [trimmed]
  · rw [if_neg fits] at trimmed ⊢
    rw [trimmed]

theorem writes_of_read {text : String} {mode : UInt32} (accepted : read text = .ok mode) :
    Writes text.toList mode.toNat := by
  simp only [read] at accepted
  split at accepted
  next value trimmed =>
      have spells := spells_of_readTrimmed trimmed
      have fits : value < UInt32.size := by
        rw [readTrimmed_of_spells spells] at trimmed
        by_contra large
        rw [if_neg large] at trimmed
        cases trimmed
      obtain ⟨lead, trail, before, after, whole⟩ := exists_surrounding text.toList
      obtain rfl := Except.ok.inj accepted
      rw [UInt32.toNat_ofNat_of_lt' fits]
      exact ⟨lead, _, trail, before, after, whole, spells⟩
  next => cases accepted

theorem spells_toDigits_ten (number : Nat) : Spells (Nat.toDigits 10 number) number := by
  refine .decimal ?_ (.inl (isDigits_toDigits (by decide) number))
  intro zero
  cases shown : Nat.toDigits 10 number with
  | nil => exact absurd shown Nat.toDigits_ne_nil
  | cons first digits =>
      rw [shown] at zero
      cases Option.some.inj zero
      rw [eq_zero_of_toDigits shown] at shown
      exact shown.symm

/-- A text is read as a mode exactly if it spells that number, with white space around it or not. A
spelling of a number beyond 32 bits is too large, and the printed digits of a mode, octal after `0o`
or `0` and decimal without, are read as that mode. -/
theorem read_mode_iff_spelled :
    (∀ (text : String) (mode : UInt32),
        read text = .ok mode ↔ Writes text.toList mode.toNat) ∧
      (∀ (text : String) (value : Nat), Writes text.toList value → 2 ^ 32 ≤ value →
        read text = .error (String.ofList (trim text.toList), .tooLarge)) ∧
      ∀ (mode : UInt32) (lead trail : List Char), IsBlank lead → IsBlank trail →
        read (String.ofList (lead ++ '0' :: 'o' :: Nat.toDigits 8 mode.toNat ++ trail)) = .ok mode ∧
        read (String.ofList (lead ++ '0' :: Nat.toDigits 8 mode.toNat ++ trail)) = .ok mode ∧
        read (String.ofList (lead ++ Nat.toDigits 10 mode.toNat ++ trail)) = .ok mode := by
  have exactly (text : String) (mode : UInt32) :
      read text = .ok mode ↔ Writes text.toList mode.toNat := by
    constructor
    · exact writes_of_read
    · intro writes
      rw [read_of_writes writes, if_pos mode.toNat_lt_size, UInt32.ofNat_toNat]
  refine ⟨exactly, ?_, ?_⟩
  · intro text value writes large
    have beyond : ¬ value < UInt32.size := Nat.not_lt.mpr large
    rw [read_of_writes writes, if_neg beyond]
  · intro mode lead trail before after
    have surrounded {body : List Char} (spells : Spells body mode.toNat) :
        read (String.ofList (lead ++ body ++ trail)) = .ok mode := by
      rw [exactly, String.toList_ofList]
      exact writes_of_spells before after spells
    have octal : IsDigits 8 (Nat.toDigits 8 mode.toNat) mode.toNat :=
      isDigits_toDigits (by decide) mode.toNat
    exact ⟨surrounded (.marked (.inl octal)), surrounded (.leadingZero (.inl octal)),
      surrounded (spells_toDigits_ten mode.toNat)⟩

/-- A sign and zeros after the mark, the first number that is too large, and the last that fits. -/
theorem read_mode_at_limits :
    Writes "\u00a00o+0017\t".toList 15 ∧ read "\u00a00o+0017\t" = .ok 15 ∧
      Writes "040000000000".toList (2 ^ 32) ∧
      read "040000000000" = .error ("040000000000", .tooLarge) ∧
      read " 037777777777\u2003" = .ok 4294967295 := by
  obtain ⟨exactly, large, printed⟩ := read_mode_iff_spelled
  have blank (c : Char) (white : isWhiteSpace c = true) : IsBlank [c] :=
    List.forall_mem_singleton.mpr white
  have signed : Writes "\u00a00o+0017\t".toList 15 := by
    have digits : IsDigits 8 "0017".toList 15 :=
      ⟨[0, 0, 1, 7], by decide, by decide, by decide, by decide⟩
    exact ⟨['\u00a0'], "0o+0017".toList, ['\t'], blank _ (by decide), blank _ (by decide),
      by decide, .marked (.inr ⟨_, rfl, digits⟩)⟩
  have beyond : Writes "040000000000".toList (2 ^ 32) := by
    have digits : IsDigits 8 "40000000000".toList (2 ^ 32) :=
      ⟨[4, 0, 0, 0, 0, 0, 0, 0, 0, 0, 0], by decide, by decide, by decide, by decide⟩
    exact ⟨[], _, [], by simp [IsBlank], by simp [IsBlank], by decide, .leadingZero (.inl digits)⟩
  refine ⟨signed, (exactly _ 15).mpr signed, beyond, ?_, ?_⟩
  · exact (large _ _ beyond (Nat.le_refl _)).trans (by decide)
  · exact (printed 4294967295 [' '] ['\u2003'] (blank _ (by decide)) (blank _ (by decide))).2.1

end Mode

end Scaffold
