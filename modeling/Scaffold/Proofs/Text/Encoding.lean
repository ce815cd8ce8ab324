import Scaffold.Text.Utf8
import Mathlib.Data.List.Basic

/-! Bytes of texts and their characters.

Texts that are spelled by the same bytes are the same (`decode_eq_some_iff`), and a byte below 128
stands for one character wherever it occurs (`mem_encode_iff`, `head?_encode_iff`). -/

set_option autoImplicit false

namespace Scaffold.Text

theorem encode_eq_flatMap (text : String) :
    encode text = text.toList.flatMap String.utf8EncodeChar := by
  have spelled : text.toByteArray = text.toList.utf8Encode := by
    rw [← String.toByteArray_ofList, String.ofList_toList]
  rw [encode, spelled, List.utf8Encode]
  simp

theorem encode_append (front back : String) :
    encode (front ++ back) = encode front ++ encode back := by
  rw [encode_eq_flatMap, encode_eq_flatMap, encode_eq_flatMap, String.toList_append,
    List.flatMap_append]

theorem decode_eq_some_iff {bytes : List UInt8} {text : String} :
    decode bytes = some text ↔ bytes = encode text := by
  unfold decode encode String.fromUTF8?
  constructor
  · intro decoded
    split at decoded
    next valid =>
        cases decoded
        simp [String.fromUTF8]
    next => cases decoded
  · intro same
    have whole : (⟨bytes.toArray⟩ : ByteArray) = text.toByteArray := by
      rw [same, Array.toArray_toList]
    rw [whole, dif_pos text.isValidUTF8]
    rfl

theorem encode_injective {left right : String} (same : encode left = encode right) :
    left = right := by
  have decoded := decode_eq_some_iff.mpr same
  rw [decode_eq_some_iff.mpr rfl] at decoded
  exact (Option.some.inj decoded)

/-! ### Characters of one byte -/

theorem le_toNat_of_mem_utf8EncodeChar {byte : UInt8} {c : Char} (long : 127 < c.val.toNat)
    (member : byte ∈ String.utf8EncodeChar c) : 128 ≤ byte.toNat := by
  rw [String.utf8EncodeChar, if_neg (Nat.not_le.mpr long)] at member
  simp only [apply_ite (byte ∈ ·), List.mem_cons, List.not_mem_nil, or_false] at member
  split at member
  · rcases member with rfl | rfl <;> simp only [UInt8.toNat_ofNat'] <;> omega
  · split at member
    · rcases member with rfl | rfl | rfl <;> simp only [UInt8.toNat_ofNat'] <;> omega
    · rcases member with rfl | rfl | rfl | rfl <;> simp only [UInt8.toNat_ofNat'] <;> omega

theorem utf8EncodeChar_of_le {c : Char} (short : c.val.toNat ≤ 127) :
    String.utf8EncodeChar c = [UInt8.ofNat c.val.toNat] := by
  rw [String.utf8EncodeChar, if_pos short]

theorem mem_utf8EncodeChar_iff {c other : Char} (short : c.val.toNat ≤ 127) :
    UInt8.ofNat c.val.toNat ∈ String.utf8EncodeChar other ↔ other = c := by
  have value (d : Char) (short : d.val.toNat ≤ 127) :
      (UInt8.ofNat d.val.toNat).toNat = d.val.toNat := by
    rw [UInt8.toNat_ofNat']
    omega
  constructor
  · intro member
    by_cases long : 127 < other.val.toNat
    · have large := le_toNat_of_mem_utf8EncodeChar long member
      rw [value c short] at large
      omega
    · rw [utf8EncodeChar_of_le (Nat.not_lt.mp long), List.mem_singleton] at member
      have numbers := congrArg UInt8.toNat member
      rw [value c short, value other (Nat.not_lt.mp long)] at numbers
      exact Char.ext (UInt32.toNat_inj.mp numbers.symm)
  · rintro rfl
    rw [utf8EncodeChar_of_le short]
    exact List.mem_singleton_self _

theorem mem_encode_iff {text : String} {c : Char} (short : c.val.toNat ≤ 127) :
    UInt8.ofNat c.val.toNat ∈ encode text ↔ c ∈ text.toList := by
  simp only [encode_eq_flatMap, List.mem_flatMap, mem_utf8EncodeChar_iff short, exists_eq_right]

theorem head?_encode_iff {text : String} {c : Char} (short : c.val.toNat ≤ 127) :
    (encode text).head? = some (UInt8.ofNat c.val.toNat) ↔ text.toList.head? = some c := by
  rw [encode_eq_flatMap]
  cases text.toList with
  | nil => simp
  | cons first rest =>
      rw [List.flatMap_cons, List.head?_cons, Option.some.injEq]
      constructor
      · intro begins
        cases spelled : String.utf8EncodeChar first with
        | nil => exact absurd spelled String.utf8EncodeChar_ne_nil
        | cons byte bytes =>
            rw [spelled, List.cons_append, List.head?_cons] at begins
            apply (mem_utf8EncodeChar_iff short).mp
            rw [spelled, Option.some.inj begins]
            exact List.mem_cons_self
      · rintro rfl
        rw [utf8EncodeChar_of_le short]
        rfl

end Scaffold.Text
