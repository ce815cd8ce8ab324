import Mathlib.Data.List.TakeWhile
import Scaffold.Toml.StringReader
import Scaffold.Toml.StringWriter

/-! Strings are read back as they were written.

Every form is read back with any text after it that does not begin with another quote
(`string?_writeString`). In the multi-line forms the reader looks at the number of quotes ahead; the
writer leaves at most two in a row, so that three are always the closing ones, after at most two
that belong to the string. -/

set_option autoImplicit false

namespace Scaffold.Toml

variable {text rest : List Char} {c : Char}

/-! ### Escapes -/

theorem hexScalar?_append {count : Nat} {digits : List Char} (long : digits.length = count)
    (rest : List Char) : hexScalar? count (digits ++ rest) = hexScalar? count digits := by
  unfold hexScalar?
  rw [List.take_left' long, ← long, List.take_length]

theorem hexScalar?_codePoint : ∀ value < 128,
    let digits := (Nat.toDigits 16 value).map Char.toUpper
    let padded := List.replicate (4 - digits.length) '0' ++ digits
    padded.length = 4 ∧ hexScalar? 4 padded = some (Char.ofNat value) := by
  decide +kernel

theorem codePointEscape_eq (control : isControl c = true) :
    ∃ digits, codePointEscape c = '\\' :: 'u' :: digits ∧ digits.length = 4 ∧
      hexScalar? 4 digits = some c := by
  have small : c.toNat < 128 := by
    unfold isControl at control
    simp only [Bool.or_eq_true, Bool.and_eq_true, decide_eq_true_eq, beq_iff_eq] at control
    omega
  obtain ⟨long, found⟩ := hexScalar?_codePoint c.toNat small
  rw [Char.ofNat_toNat] at found
  exact ⟨_, rfl, long, found⟩

/-- A character stands for itself, or an escape that is not taken for the end of a line is read back
as the character. -/
theorem escapedChar_cases (c : Char) :
    (escapedChar c = [c] ∧ c ≠ '\\' ∧ isControl c = false) ∨
    ∃ first spelled, escapedChar c = '\\' :: first :: spelled ∧ isBlank first = false ∧
      first ≠ '\n' ∧ first ≠ '\r' ∧
      ∀ rest, escape? (first :: spelled ++ rest) = some (c, spelled.length + 1) := by
  unfold escapedChar
  split
  next same => exact .inr ⟨'b', [], rfl, rfl, by decide, by decide, fun rest => by rw [same]; rfl⟩
  split
  next same => exact .inr ⟨'t', [], rfl, rfl, by decide, by decide, fun rest => by rw [same]; rfl⟩
  split
  next same => exact .inr ⟨'n', [], rfl, rfl, by decide, by decide, fun rest => by rw [same]; rfl⟩
  split
  next same => exact .inr ⟨'f', [], rfl, rfl, by decide, by decide, fun rest => by rw [same]; rfl⟩
  split
  next same => exact .inr ⟨'r', [], rfl, rfl, by decide, by decide, fun rest => by rw [same]; rfl⟩
  split
  next same =>
      exact .inr ⟨'\\', [], rfl, rfl, by decide, by decide, fun rest => by rw [same]; rfl⟩
  next plain =>
      split
      next control =>
          right
          obtain ⟨digits, spelled, long, found⟩ := codePointEscape_eq control
          refine ⟨'u', digits, spelled, rfl, by decide, by decide, ?_⟩
          intro rest
          have read : escape? ('u' :: digits ++ rest) =
              (hexScalar? 4 (digits ++ rest)).map fun char => (char, 5) := rfl
          rw [read, hexScalar?_append long, found, long]
          rfl
      next control => exact .inl ⟨rfl, plain, Bool.not_eq_true _ ▸ control⟩

theorem ne_of_isControl_eq_false {control : Char} (free : isControl c = false)
    (code : isControl control = true) : c ≠ control := by
  rintro rfl
  rw [free] at code
  cases code

/-! ### Strings on one line -/

theorem basicString_close (rest : List Char) :
    basicString (quoteMark :: rest) = some ([], rest) := by
  rw [basicString, if_pos rfl]

theorem basicString_cons (unquoted : c ≠ quoteMark) (plain : c ≠ '\\') (free : isControl c = false)
    (rest : List Char) :
    basicString (c :: rest) = (basicString rest).map fun (text, after) => (c :: text, after) := by
  rw [basicString, if_neg unquoted, if_neg plain, free]
  rfl

theorem basicString_escape (spelled rest : List Char)
    (found : escape? (spelled ++ rest) = some (c, spelled.length)) :
    basicString ('\\' :: (spelled ++ rest)) =
      (basicString rest).map fun (text, after) => (c :: text, after) := by
  rw [basicString, if_neg (by decide), if_pos rfl, found]
  simp only [List.drop_left]

theorem basicString_escapedQuote (rest : List Char) :
    basicString ('\\' :: quoteMark :: rest) =
      (basicString rest).map fun (text, after) => (quoteMark :: text, after) :=
  basicString_escape [quoteMark] rest rfl

theorem basicString_escapedChar (unquoted : c ≠ quoteMark) (rest : List Char) :
    basicString (escapedChar c ++ rest) =
      (basicString rest).map fun (text, after) => (c :: text, after) := by
  rcases escapedChar_cases c with ⟨raw, plain, free⟩ | ⟨first, spelled, shown, -, -, -, found⟩
  · rw [raw]
    exact basicString_cons unquoted plain free rest
  · rw [shown]
    exact basicString_escape _ rest (found rest)

theorem basicString_escaped (text rest : List Char) :
    basicString (escaped false 0 0 text ++ quoteMark :: rest) = some (text, rest) := by
  induction text with
  | nil => exact basicString_close rest
  | cons c text ih =>
      rw [escaped]
      split
      next same =>
          rw [same, if_neg (by decide), List.cons_append, List.cons_append,
            basicString_escapedQuote, ih]
          rfl
      next unquoted =>
          rw [if_neg (by simp), List.append_assoc, basicString_escapedChar unquoted, ih]
          rfl

theorem literalString_of_fits (fit : fits text .literal = true) (rest : List Char) :
    literalString (text ++ apostrophe :: rest) = some (text, rest) := by
  induction text with
  | nil => rfl
  | cons c text ih =>
      simp only [fits, List.any_cons, Bool.not_or, Bool.and_eq_true, Bool.not_eq_true',
        beq_eq_false_iff_ne] at fit
      obtain ⟨⟨unquoted, free⟩, others⟩ := fit
      rw [List.cons_append, literalString, if_neg unquoted, free, ih]
      · rfl
      · simp only [fits, others]
        rfl

/-! ### Strings of several lines -/

def Unquoted (text : List Char) : Prop :=
  text.head? ≠ some quoteMark ∧ text.head? ≠ some apostrophe

theorem runLength_cons (c first : Char) (rest : List Char) :
    runLength c (first :: rest) = if first = c then runLength c rest + 1 else 0 := by
  unfold runLength
  by_cases same : first = c
  · simp [same]
  · simp [same]

theorem runLength_eq_zero (other : rest.head? ≠ some c) : runLength c rest = 0 := by
  cases rest with
  | nil => rfl
  | cons first rest =>
      rw [runLength_cons, if_neg]
      rintro rfl
      exact other rfl

theorem runLength_replicate_append (c : Char) (count : Nat) (other : rest.head? ≠ some c) :
    runLength c (List.replicate count c ++ rest) = count := by
  induction count with
  | zero => exact runLength_eq_zero other
  | succ count ih => rw [List.replicate_succ, List.cons_append, runLength_cons, if_pos rfl, ih]

/-- Up to two quotes right before the closing ones belong to the string. -/
theorem closeMultiline_replicate (quote : Char) {kept : Nat} (few : kept ≤ 2) (rest : List Char) :
    closeMultiline quote (kept + 3) (List.replicate (kept + 3) quote ++ rest) =
      (List.replicate kept quote, rest) := by
  unfold closeMultiline
  have same : min (kept + 3 - 3) 2 = kept := by omega
  simp only [same, List.drop_left' List.length_replicate]

/-- Either nothing but quotes is left, which end with the closing ones, or the quotes ahead are too
few to close the string. -/
def Closes (quote : Char) (count : Nat) (text body : List Char) : Prop :=
  (∃ kept, kept + count ≤ 2 ∧ text = List.replicate kept quote ∧ body = text) ∨
    ∀ rest, runLength quote (body ++ rest) + count ≤ 2

theorem closes_cons {count : Nat} {text body : List Char} {quote : Char}
    (closes : Closes quote (count + 1) text body) :
    Closes quote count (quote :: text) (quote :: body) := by
  rcases closes with ⟨kept, few, all, same⟩ | short
  · left
    refine ⟨kept + 1, by omega, ?_, ?_⟩
    · rw [all, List.replicate_succ]
    · rw [same]
  · right
    intro rest
    have bound := short rest
    rw [List.cons_append, runLength_cons, if_pos rfl]
    omega

theorem closes_of_head {count : Nat} {text body : List Char} {quote : Char} (few : count ≤ 2)
    (other : c ≠ quote) : Closes quote count text (c :: body) := by
  right
  intro rest
  rw [List.cons_append, runLength_cons, if_neg other]
  omega

theorem closes_escaped (text : List Char) {count : Nat} (few : count ≤ 2) :
    Closes quoteMark count text (escaped true 2 count text) := by
  induction text generalizing count with
  | nil => exact .inl ⟨0, by omega, rfl, rfl⟩
  | cons c text ih =>
      rw [escaped]
      split
      next same =>
          rw [same]
          split
          next under => exact closes_cons (ih (by omega))
          next => exact closes_of_head few (by decide)
      next other =>
          split
          next => exact closes_of_head few other
          next =>
              rcases escapedChar_cases c with ⟨raw, -, -⟩ | ⟨first, spelled, shown, -⟩
              · rw [raw]
                exact closes_of_head few other
              · rw [shown]
                exact closes_of_head few (by decide)

theorem closes_of_longestRun {quote : Char} {count : Nat} (few : longestRun quote count text ≤ 2) :
    Closes quote count text text := by
  induction text generalizing count with
  | nil => exact .inl ⟨0, by simpa [longestRun] using few, rfl, rfl⟩
  | cons c text ih =>
      rw [longestRun] at few
      split at few
      next same =>
          rw [same]
          exact closes_cons (ih few)
      next other => exact closes_of_head (by omega) other

theorem replicate_append_quotes (quote : Char) (kept : Nat) (rest : List Char) :
    List.replicate kept quote ++ quote :: quote :: quote :: rest =
      List.replicate (kept + 3) quote ++ rest := by
  rw [← List.replicate_append_replicate, List.append_assoc]
  rfl

theorem multilineBasicString_close {kept : Nat} (few : kept ≤ 2)
    (other : rest.head? ≠ some quoteMark) :
    multilineBasicString (List.replicate (kept + 3) quoteMark ++ rest) =
      some (List.replicate kept quoteMark, rest) := by
  have run := runLength_replicate_append quoteMark (kept + 3) other
  have closed := closeMultiline_replicate quoteMark few rest
  rw [List.replicate_succ, List.cons_append] at run closed ⊢
  rw [multilineBasicString, if_pos rfl]
  simp only [run]
  rw [if_pos (by omega), closed]

theorem multilineBasicString_quote (short : runLength quoteMark (quoteMark :: rest) ≤ 2) :
    multilineBasicString (quoteMark :: rest) =
      (multilineBasicString rest).map fun (text, after) => (quoteMark :: text, after) := by
  rw [multilineBasicString, if_pos rfl]
  exact if_neg (by omega)

theorem lineEnd?_cons (feed : c ≠ '\n') (carriage : c ≠ '\r') (rest : List Char) :
    lineEnd? (c :: rest) = none := by
  unfold lineEnd?
  split
  next same =>
      cases same
      exact absurd rfl feed
  next same =>
      cases same
      exact absurd rfl carriage
  next => rfl

theorem multilineBasicString_escape {first : Char} (spelled rest : List Char)
    (blank : isBlank first = false) (feed : first ≠ '\n') (carriage : first ≠ '\r')
    (found : escape? (first :: spelled ++ rest) = some (c, spelled.length + 1)) :
    multilineBasicString ('\\' :: (first :: spelled ++ rest)) =
      (multilineBasicString rest).map fun (text, after) => (c :: text, after) := by
  have visible : (first :: spelled ++ rest).dropWhile isBlank = first :: spelled ++ rest := by
    rw [List.cons_append, List.dropWhile_cons_of_neg (by rw [blank]; decide)]
  have goes : (lineEnd? ((first :: spelled ++ rest).dropWhile isBlank)).isSome = false := by
    rw [visible, List.cons_append, lineEnd?_cons feed carriage]
    rfl
  have left : (first :: spelled ++ rest).drop (spelled.length + 1) = rest :=
    List.drop_left' rfl
  rw [multilineBasicString, if_neg (by decide), if_pos rfl, if_neg (by rw [goes]; decide), found]
  simp only [left]

theorem multilineBasicString_escapedQuote (rest : List Char) :
    multilineBasicString ('\\' :: quoteMark :: rest) =
      (multilineBasicString rest).map fun (text, after) => (quoteMark :: text, after) :=
  multilineBasicString_escape [] rest (by decide) (by decide) (by decide) rfl

theorem multilineBasicString_lineFeed (rest : List Char) :
    multilineBasicString ('\n' :: rest) =
      (multilineBasicString rest).map fun (text, after) => ('\n' :: text, after) := by
  rw [multilineBasicString, if_neg (by decide), if_neg (by decide)]
  rfl

theorem multilineBasicString_cons (unquoted : c ≠ quoteMark) (plain : c ≠ '\\')
    (free : isControl c = false) (rest : List Char) :
    multilineBasicString (c :: rest) =
      (multilineBasicString rest).map fun (text, after) => (c :: text, after) := by
  have going := lineEnd?_cons (ne_of_isControl_eq_false free (by decide))
    (ne_of_isControl_eq_false free (by decide)) rest
  rw [multilineBasicString, if_neg unquoted, if_neg plain]
  split
  next ended =>
      rw [going] at ended
      cases ended
  next =>
      rw [free]
      rfl

theorem multilineBasicString_escapedChar (unquoted : c ≠ quoteMark) (rest : List Char) :
    multilineBasicString (escapedChar c ++ rest) =
      (multilineBasicString rest).map fun (text, after) => (c :: text, after) := by
  rcases escapedChar_cases c with
    ⟨raw, plain, free⟩ | ⟨first, spelled, shown, blank, feed, carriage, found⟩
  · rw [raw]
    exact multilineBasicString_cons unquoted plain free rest
  · rw [shown]
    exact multilineBasicString_escape spelled rest blank feed carriage (found rest)

theorem multilineBasicString_escaped {count : Nat} (few : count ≤ 2) (text : List Char)
    (other : rest.head? ≠ some quoteMark) :
    multilineBasicString
        (escaped true 2 count text ++ quoteMark :: quoteMark :: quoteMark :: rest) =
      some (text, rest) := by
  -- The quotes counted stand right before the text. What is ahead closes the string, and then it is
  -- all that is left of the text, or it begins with what one character was written as.
  induction text generalizing count with
  | nil => exact multilineBasicString_close (Nat.zero_le 2) other
  | cons c text ih =>
      rcases closes_escaped (c :: text) few with ⟨kept, under, all, same⟩ | short
      · rw [same, all, replicate_append_quotes, multilineBasicString_close (by omega) other]
      · have ahead := short (quoteMark :: quoteMark :: quoteMark :: rest)
        rw [escaped] at ahead ⊢
        split
        next same =>
            rw [same] at ahead ⊢
            rw [if_pos rfl] at ahead
            split
            next under =>
                rw [if_pos under, List.cons_append] at ahead
                rw [List.cons_append, multilineBasicString_quote (by omega), ih (by omega)]
                rfl
            next =>
                rw [List.cons_append, List.cons_append, multilineBasicString_escapedQuote,
                  ih (by omega)]
                rfl
        next unquoted =>
            split
            next feed =>
                obtain rfl : c = '\n' := by simpa using feed
                rw [List.cons_append, multilineBasicString_lineFeed, ih (by omega)]
                rfl
            next =>
                rw [List.append_assoc, multilineBasicString_escapedChar unquoted, ih (by omega)]
                rfl

theorem multilineLiteralString_close {kept : Nat} (few : kept ≤ 2)
    (other : rest.head? ≠ some apostrophe) :
    multilineLiteralString (List.replicate (kept + 3) apostrophe ++ rest) =
      some (List.replicate kept apostrophe, rest) := by
  have run := runLength_replicate_append apostrophe (kept + 3) other
  have closed := closeMultiline_replicate apostrophe few rest
  rw [List.replicate_succ, List.cons_append] at run closed ⊢
  rw [multilineLiteralString, if_pos rfl]
  simp only [run]
  rw [if_pos (by omega), closed]

theorem multilineLiteralString_cons (free : isInnerControl c = false)
    (short : runLength apostrophe (c :: rest) ≤ 2) :
    multilineLiteralString (c :: rest) =
      (multilineLiteralString rest).map fun (text, after) => (c :: text, after) := by
  rw [multilineLiteralString]
  split
  next => exact if_neg (by omega)
  next =>
      by_cases feed : c = '\n'
      · rw [feed]
        rfl
      · have plain : isControl c = false := by
          simpa [isInnerControl, feed] using free
        have going := lineEnd?_cons feed (ne_of_isControl_eq_false plain (by decide)) rest
        split
        next ended =>
            rw [going] at ended
            cases ended
        next =>
            rw [plain]
            rfl

theorem multilineLiteralString_of_longestRun {count : Nat}
    (free : text.any isInnerControl = false) (few : longestRun apostrophe count text ≤ 2)
    (other : rest.head? ≠ some apostrophe) :
    multilineLiteralString (text ++ apostrophe :: apostrophe :: apostrophe :: rest) =
      some (text, rest) := by
  induction text generalizing count with
  | nil => exact multilineLiteralString_close (Nat.zero_le 2) other
  | cons c text ih =>
      rcases closes_of_longestRun few with ⟨kept, under, all, -⟩ | short
      · rw [all, replicate_append_quotes, multilineLiteralString_close (by omega) other]
      · have ahead := short (apostrophe :: apostrophe :: apostrophe :: rest)
        rw [List.any_cons, Bool.or_eq_false_iff] at free
        have later : ∃ next, longestRun apostrophe next text ≤ 2 := by
          rw [longestRun] at few
          split at few
          next => exact ⟨_, few⟩
          next => exact ⟨0, by omega⟩
        obtain ⟨next, few⟩ := later
        rw [List.cons_append] at ahead ⊢
        rw [multilineLiteralString_cons free.1 (by omega), ih free.2 few]
        rfl

/-! ### Strings in their quotes -/

theorem runLength_opening {quote : Char} {body : List Char} (opens : body.head? ≠ some quote)
    (other : rest.head? ≠ some quote) : runLength quote (quote :: (body ++ quote :: rest)) < 3 := by
  rw [runLength_cons, if_pos rfl]
  cases body with
  | nil =>
      rw [List.nil_append, runLength_cons, if_pos rfl, runLength_eq_zero other]
      omega
  | cons first body =>
      rw [runLength_eq_zero]
      · omega
      · exact opens

theorem head?_escaped_ne (text : List Char) : (escaped false 0 0 text).head? ≠ some quoteMark := by
  cases text with
  | nil => nofun
  | cons c text =>
      rw [escaped]
      split
      next => exact fun same => absurd (Option.some.inj same) (by decide)
      next unquoted =>
          rw [if_neg (by simp)]
          rcases escapedChar_cases c with ⟨raw, -, -⟩ | ⟨first, spelled, shown, -⟩
          · rw [raw]
            simpa using unquoted
          · rw [shown]
            exact fun same => absurd (Option.some.inj same) (by decide)

theorem head?_ne_of_fits (fit : fits text .literal = true) : text.head? ≠ some apostrophe := by
  cases text with
  | nil => nofun
  | cons c text =>
      rintro same
      cases same
      cases fit

theorem lineEnd?_escaped (plain : '\n' ∉ text) (rest : List Char) :
    lineEnd? (escaped true 2 0 text ++ quoteMark :: rest) = none := by
  cases text with
  | nil => exact lineEnd?_cons (by decide) (by decide) rest
  | cons c text =>
      have feed : c ≠ '\n' := fun same => plain (same ▸ List.mem_cons_self)
      rw [escaped]
      split
      next same =>
          rw [same]
          exact lineEnd?_cons (by decide) (by decide) _
      next =>
          rw [if_neg (by simpa using feed)]
          rcases escapedChar_cases c with ⟨raw, -, free⟩ | ⟨first, spelled, shown, -⟩
          · rw [raw]
            exact lineEnd?_cons feed (ne_of_isControl_eq_false free (by decide)) _
          · rw [shown]
            exact lineEnd?_cons (by decide) (by decide) _

theorem lineEnd?_literal (plain : '\n' ∉ text) (free : text.any isInnerControl = false)
    (rest : List Char) : lineEnd? (text ++ apostrophe :: rest) = none := by
  cases text with
  | nil => exact lineEnd?_cons (by decide) (by decide) rest
  | cons c text =>
      refine lineEnd?_cons (fun same => plain (same ▸ List.mem_cons_self)) ?_ _
      rintro rfl
      cases free

theorem getD_lineEnd?_lead {body : List Char} (ends : '\n' ∉ text → lineEnd? body = none) :
    (lineEnd? ((if text.contains '\n' then ['\n'] else []) ++ body)).getD
      ((if text.contains '\n' then ['\n'] else []) ++ body) = body := by
  split
  next => rfl
  next plain =>
      rw [List.nil_append, ends (by simpa using plain)]
      rfl

theorem string?_of_basic {after : List Char}
    (single : runLength quoteMark (quoteMark :: rest) < 3)
    (found : basicString rest = some (text, after)) :
    string? (quoteMark :: rest) = some (String.ofList text, after) := by
  have short : ¬ 3 ≤ runLength quoteMark (quoteMark :: rest) := by omega
  unfold string?
  simp only [List.head?_cons, if_true, if_neg short, List.drop_succ_cons, List.drop_zero, found]
  rfl

theorem string?_of_literal {after : List Char}
    (single : runLength apostrophe (apostrophe :: rest) < 3)
    (found : literalString rest = some (text, after)) :
    string? (apostrophe :: rest) = some (String.ofList text, after) := by
  have short : ¬ 3 ≤ runLength apostrophe (apostrophe :: rest) := by omega
  have other : ¬ some apostrophe = some quoteMark := by decide
  unfold string?
  simp only [List.head?_cons, if_neg other, if_true, if_neg short, List.drop_succ_cons,
    List.drop_zero, found]
  rfl

theorem three_le_runLength (c : Char) (rest : List Char) :
    3 ≤ runLength c (c :: c :: c :: rest) := by
  simp only [runLength_cons, if_true]
  omega

theorem string?_of_multilineBasic {after : List Char}
    (found : multilineBasicString ((lineEnd? rest).getD rest) = some (text, after)) :
    string? (quoteMark :: quoteMark :: quoteMark :: rest) = some (String.ofList text, after) := by
  unfold string?
  simp only [List.head?_cons, if_true, three_le_runLength, List.drop_succ_cons, List.drop_zero,
    found]
  rfl

theorem string?_of_multilineLiteral {after : List Char}
    (found : multilineLiteralString ((lineEnd? rest).getD rest) = some (text, after)) :
    string? (apostrophe :: apostrophe :: apostrophe :: rest) =
      some (String.ofList text, after) := by
  have other : ¬ some apostrophe = some quoteMark := by decide
  unfold string?
  simp only [List.head?_cons, if_neg other, if_true, three_le_runLength, List.drop_succ_cons,
    List.drop_zero, found]
  rfl

theorem writeInForm_basic_append (text rest : List Char) :
    writeInForm .basic text ++ rest =
      quoteMark :: (escaped false 0 0 text ++ quoteMark :: rest) := by
  simp [writeInForm, StringForm.quotes, StringForm.hasEscapes, StringForm.isMultiline]

theorem writeInForm_literal_append (text rest : List Char) :
    writeInForm .literal text ++ rest = apostrophe :: (text ++ apostrophe :: rest) := by
  simp [writeInForm, StringForm.quotes, StringForm.hasEscapes, StringForm.isMultiline]

theorem writeInForm_multilineBasic_append (text rest : List Char) :
    writeInForm .multilineBasic text ++ rest =
      quoteMark :: quoteMark :: quoteMark :: ((if text.contains '\n' then ['\n'] else []) ++
        (escaped true 2 0 text ++ quoteMark :: quoteMark :: quoteMark :: rest)) := by
  simp [writeInForm, StringForm.quotes, StringForm.hasEscapes, StringForm.isMultiline]

theorem writeInForm_multilineLiteral_append (text rest : List Char) :
    writeInForm .multilineLiteral text ++ rest =
      apostrophe :: apostrophe :: apostrophe :: ((if text.contains '\n' then ['\n'] else []) ++
        (text ++ apostrophe :: apostrophe :: apostrophe :: rest)) := by
  simp [writeInForm, StringForm.quotes, StringForm.hasEscapes, StringForm.isMultiline]

theorem string?_writeInForm {form : StringForm}
    (fit : form.hasEscapes = true ∨ fits text form = true) (unquoted : Unquoted rest) :
    string? (writeInForm form text ++ rest) = some (String.ofList text, rest) := by
  cases form with
  | basic =>
      rw [writeInForm_basic_append]
      exact string?_of_basic (runLength_opening (head?_escaped_ne text) unquoted.1)
        (basicString_escaped text rest)
  | literal =>
      have plain : fits text .literal = true := fit.resolve_left (by decide)
      rw [writeInForm_literal_append]
      exact string?_of_literal (runLength_opening (head?_ne_of_fits plain) unquoted.2)
        (literalString_of_fits plain rest)
  | multilineBasic =>
      rw [writeInForm_multilineBasic_append]
      apply string?_of_multilineBasic
      rw [getD_lineEnd?_lead fun plain => lineEnd?_escaped plain _]
      exact multilineBasicString_escaped (Nat.zero_le 2) text unquoted.1
  | multilineLiteral =>
      have plain : fits text .multilineLiteral = true := fit.resolve_left (by decide)
      simp only [fits, Bool.and_eq_true, Bool.not_eq_true', decide_eq_true_eq] at plain
      obtain ⟨free, few⟩ := plain
      rw [writeInForm_multilineLiteral_append]
      apply string?_of_multilineLiteral
      rw [getD_lineEnd?_lead fun plain => lineEnd?_literal plain free _]
      exact multilineLiteralString_of_longestRun free few unquoted.2

theorem chooseForm_fits (text : List Char) :
    (chooseForm text).hasEscapes = true ∨ fits text (chooseForm text) = true := by
  unfold chooseForm
  split
  next => exact .inl rfl
  split
  next fit => exact .inr fit
  split
  next => exact .inl rfl
  split
  next fit => exact .inr fit
  split
  next => exact .inl rfl
  next => exact .inl rfl

theorem string?_writeString (text : List Char) (unquoted : Unquoted rest) :
    string? (writeString text ++ rest) = some (String.ofList text, rest) :=
  string?_writeInForm (chooseForm_fits text) unquoted

end Scaffold.Toml
