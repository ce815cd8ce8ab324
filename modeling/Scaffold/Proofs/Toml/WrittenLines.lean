import Mathlib.Data.List.Basic
import Scaffold.Proofs.Text.Numerals
import Scaffold.Proofs.Toml.StringForms
import Scaffold.Toml.Statement

/-! Lines are read back as the statements that they were written for.

A text `Spells` statements if it is read as just those, whatever text comes after it, and if that
takes no more steps than it has characters. Two texts one after the other spell the statements of
the first and then those of the second. -/

set_option autoImplicit false

namespace Scaffold.Toml

variable {key text rest written : List Char} {c : Char} {value : Value}

/-! ### Keys -/

def beginsKey (c : Char) : Bool := c == quoteMark || c == apostrophe || isBareKeyChar c

theorem ne_of_beginsKey {other : Char} (begins : beginsKey c = true)
    (special : beginsKey other = false) : c ≠ other := by
  rintro rfl
  rw [special] at begins
  cases begins

theorem isBlank_of_beginsKey (begins : beginsKey c = true) : isBlank c = false := by
  have space : c ≠ ' ' := ne_of_beginsKey begins (by decide)
  have tab : c ≠ '\t' := ne_of_beginsKey begins (by decide)
  simp [isBlank, space, tab]

theorem writeKey_cases (key : List Char) :
    (isBareKey key = true ∧ writeKey key = key) ∨ writeKey key = writeInForm .basic key ∨
      (fits key .literal = true ∧ writeKey key = writeInForm .literal key) := by
  unfold writeKey
  split
  next bare => exact .inl ⟨bare, rfl⟩
  split
  next => exact .inr (.inl rfl)
  split
  next fit => exact .inr (.inr ⟨fit, rfl⟩)
  next => exact .inr (.inl rfl)

theorem writeKey_begins (key : List Char) :
    ∃ first more, writeKey key = first :: more ∧ beginsKey first = true := by
  rcases writeKey_cases key with ⟨bare, same⟩ | same | ⟨-, same⟩
  · rw [same]
    cases key with
    | nil => cases bare
    | cons first more =>
        simp only [isBareKey, List.all_cons, Bool.and_eq_true] at bare
        refine ⟨first, more, rfl, ?_⟩
        rw [beginsKey, bare.2.1, Bool.or_true]
  · exact ⟨quoteMark, _, same, by decide⟩
  · exact ⟨apostrophe, _, same, by decide⟩

theorem simpleKey?_of_bare {first : Char} (bare : isBareKeyChar first = true) (rest : List Char) :
    simpleKey? (first :: rest) = some (String.ofList ((first :: rest).takeWhile isBareKeyChar),
      (first :: rest).dropWhile isBareKeyChar) := by
  have unquoted : first ≠ quoteMark := by
    rintro rfl
    cases bare
  have unmarked : first ≠ apostrophe := by
    rintro rfl
    cases bare
  rw [simpleKey?, if_neg unquoted, if_neg unmarked, if_pos bare]

theorem simpleKey?_writeKey (key : List Char) (special : isBareKeyChar c = false)
    (rest : List Char) :
    simpleKey? (writeKey key ++ c :: rest) = some (String.ofList key, c :: rest) := by
  rcases writeKey_cases key with ⟨bare, same⟩ | same | ⟨fit, same⟩
  · obtain ⟨first, more, shown, -⟩ := writeKey_begins key
    rw [same] at shown ⊢
    simp only [isBareKey, Bool.and_eq_true, List.all_eq_true] at bare
    have ends : (c :: rest).takeWhile isBareKeyChar = [] := by
      rw [List.takeWhile_cons_of_neg (by rw [special]; decide)]
    have left : (c :: rest).dropWhile isBareKeyChar = c :: rest := by
      rw [List.dropWhile_cons_of_neg (by rw [special]; decide)]
    have read := simpleKey?_of_bare (bare.2 first (shown ▸ List.mem_cons_self))
      (more ++ c :: rest)
    rw [← List.cons_append, ← shown, List.takeWhile_append_of_pos bare.2,
      List.dropWhile_append_of_pos bare.2, ends, left, List.append_nil] at read
    exact read
  · rw [same, writeInForm_basic_append, simpleKey?, if_pos rfl, basicString_escaped]
    rfl
  · rw [same, writeInForm_literal_append, simpleKey?, if_neg (by decide), if_pos rfl,
      literalString_of_fits fit]
    rfl

theorem dropWhile_isBlank_writeKey (key rest : List Char) :
    (writeKey key ++ rest).dropWhile isBlank = writeKey key ++ rest := by
  obtain ⟨first, more, shown, begins⟩ := writeKey_begins key
  rw [shown, List.cons_append, List.dropWhile_cons_of_neg]
  rw [isBlank_of_beginsKey begins]
  decide

theorem dottedKey?_writeKey {next : Char} {more : List Char} (key : List Char)
    (special : isBareKeyChar c = false) (follows : (c :: rest).dropWhile isBlank = next :: more)
    (undotted : next ≠ '.') :
    dottedKey? (writeKey key ++ c :: rest) = some (⟨[], String.ofList key⟩, next :: more) := by
  have parts : keyParts? (keyPartLimit - 1) (writeKey key ++ c :: rest) =
      some ([String.ofList key], next :: more) := by
    have several : keyPartLimit - 1 = 78 + 1 := rfl
    rw [several, keyParts?, dropWhile_isBlank_writeKey, simpleKey?_writeKey key special]
    simp only [Option.bind_eq_bind, Option.bind_some, follows]
    split
    next same =>
        cases same
        exact absurd rfl undotted
    next => rfl
  rw [dottedKey?, parts]
  rfl

/-! ### Numbers -/

theorem digitValue_of_isDigit (digit : c.isDigit = true) : digitValue c = c.toNat - 48 := by
  rw [digitValue, if_pos digit]

theorem digitsValue_toDigits (number : Nat) :
    digitsValue 10 (Nat.toDigits 10 number) = number := by
  have digits : ∀ c ∈ Nat.toDigits 10 number, c.isDigit = true := fun c member =>
    Nat.isDigit_of_mem_toDigits (by decide) (by decide) member
  have same : digitsValue 10 (Nat.toDigits 10 number) =
      Nat.ofDigitChars 10 (Nat.toDigits 10 number) 0 := by
    rw [Nat.ofDigitChars_eq_foldl]
    apply List.foldl_ext
    intro value c member
    rw [digitValue_of_isDigit (digits c member), Nat.mul_comm]
    rfl
  rw [same, Nat.ofDigitChars_ten_toDigits]

def IsDigitLine (text : List Char) : Prop :=
  ∃ digits rest, text = digits ++ '\n' :: rest ∧ ∀ c ∈ digits, c.isDigit = true

theorem IsDigitLine.head {text : List Char} (line : IsDigitLine (c :: text)) :
    c.isDigit = true ∨ c = '\n' := by
  obtain ⟨digits, rest, shown, all⟩ := line
  cases digits with
  | nil => exact .inr (List.cons.inj shown).1
  | cons first digits =>
      rw [(List.cons.inj shown).1]
      exact .inl (all first List.mem_cons_self)

theorem IsDigitLine.after?_eq_none (line : IsDigitLine text) (other : c.isDigit = false)
    (feed : c ≠ '\n') : after? c text = none := by
  cases text with
  | nil => rfl
  | cons first text =>
      rw [after?, if_neg]
      rintro rfl
      rcases line.head with digit | same
      · rw [other] at digit
        cases digit
      · exact feed same

theorem IsDigitLine.of_fixedDigits? {count least most found : Nat} (line : IsDigitLine text)
    (read : fixedDigits? count least most text = some (found, rest)) : IsDigitLine rest := by
  obtain ⟨digits, after, shown, all⟩ := line
  unfold fixedDigits? at read
  dsimp only at read
  split at read
  next fit =>
      cases read
      simp only [Bool.and_eq_true, decide_eq_true_eq, List.all_eq_true] at fit
      obtain ⟨⟨⟨long, digit⟩, -⟩, -⟩ := fit
      by_cases enough : count ≤ digits.length
      · refine ⟨digits.drop count, after, ?_, fun c member => all c (List.mem_of_mem_drop member)⟩
        rw [shown, List.drop_append_of_le_length enough]
      · have member : '\n' ∈ text.take count := by
          rw [shown, List.take_append, List.mem_append]
          right
          obtain ⟨more, same⟩ : ∃ more, count - digits.length = more + 1 :=
            ⟨count - digits.length - 1, by omega⟩
          rw [same, List.take_succ_cons]
          exact List.mem_cons_self
        exact absurd (digit _ member) (by decide)
  next => cases read

theorem IsDigitLine.dateTime?_eq_none (line : IsDigitLine text) : dateTime? text = none := by
  have undated : date? text = none := by
    unfold date?
    cases year : fixedDigits? 4 0 9999 text with
    | none => rfl
    | some read =>
        simp only [Option.bind_eq_bind, Option.bind_some,
          (line.of_fixedDigits? year).after?_eq_none (c := '-') (by decide) (by decide)]
        rfl
  have untimed : time? text = none := by
    unfold time?
    cases hour : fixedDigits? 2 0 23 text with
    | none => rfl
    | some read =>
        simp only [Option.bind_eq_bind, Option.bind_some,
          (line.of_fixedDigits? hour).after?_eq_none (c := ':') (by decide) (by decide)]
        rfl
  rw [dateTime?, undated, untimed]
  rfl

theorem digitRun_of_digits {digits : List Char} (all : ∀ c ∈ digits, c.isDigit = true)
    (rest : List Char) :
    digitRun Char.isDigit (digits ++ '\n' :: rest) = (digits, '\n' :: rest) := by
  induction digits with
  | nil => rfl
  | cons c digits ih =>
      rw [List.cons_append, digitRun, if_pos (all c List.mem_cons_self),
        ih fun c member => all c (List.mem_cons_of_mem _ member)]

theorem wholeDigits?_toDigits (number : Nat) (rest : List Char) :
    wholeDigits? (Nat.toDigits 10 number ++ '\n' :: rest) =
      some (Nat.toDigits 10 number, '\n' :: rest) := by
  have all : ∀ c ∈ Nat.toDigits 10 number, c.isDigit = true := fun c member =>
    Nat.isDigit_of_mem_toDigits (by decide) (by decide) member
  cases shown : Nat.toDigits 10 number with
  | nil => exact absurd shown Nat.toDigits_ne_nil
  | cons first digits =>
      by_cases leading : first = '0'
      · rw [leading] at shown
        have zero := Text.eq_zero_of_toDigits shown
        rw [zero, Nat.toDigits_zero] at shown
        cases shown
        rw [leading]
        rfl
      · have read : wholeDigits? (first :: digits ++ '\n' :: rest) =
            digits? Char.isDigit (first :: digits ++ '\n' :: rest) := by
          unfold wholeDigits?
          split
          next same => exact absurd (List.cons.inj same).1 leading
          next => rfl
        rw [shown] at all
        rw [read, digits?, digitRun_of_digits all]
        have digit := all first List.mem_cons_self
        simp [digit]

theorem ne_of_isDigit {other : Char} (digit : c.isDigit = true) (special : other.isDigit = false) :
    c ≠ other := by
  rintro rfl
  rw [special] at digit
  cases digit

theorem IsDigitLine.tail (line : IsDigitLine (c :: rest)) (digit : c.isDigit = true) :
    IsDigitLine rest := by
  obtain ⟨digits, after, shown, all⟩ := line
  cases digits with
  | nil => exact absurd (List.cons.inj shown).1 (ne_of_isDigit digit (by decide))
  | cons first digits =>
      exact ⟨digits, after, (List.cons.inj shown).2,
        fun c member => all c (List.mem_cons_of_mem _ member)⟩

theorem sign_of_isDigit (digit : c.isDigit = true) (rest : List Char) :
    sign (c :: rest) = (false, c :: rest) := by
  unfold sign
  split
  next same => exact absurd (List.cons.inj same).1 (ne_of_isDigit digit (by decide))
  next same => exact absurd (List.cons.inj same).1 (ne_of_isDigit digit (by decide))
  next => rfl

theorem number?_of_isDigitLine (line : IsDigitLine (c :: rest)) (digit : c.isDigit = true) :
    number? (c :: rest) = decimal? (c :: rest) := by
  have marked {mark : Char} (same : (c :: rest).take 2 = ['0', mark])
      (other : mark.isDigit = false) (feed : mark ≠ '\n') : False := by
    cases rest with
    | nil => cases same
    | cons second rest =>
        simp only [List.take_succ_cons, List.take_zero, List.cons.injEq, and_true] at same
        rcases (line.tail digit).head with also | ends
        · exact ne_of_isDigit also other same.2
        · exact feed (same.2.symm.trans ends)
  have unworded : wordFloat? (c :: rest) = none := by
    have i : c ≠ 'i' := ne_of_isDigit digit (by decide)
    have n : c ≠ 'n' := ne_of_isDigit digit (by decide)
    simp [wordFloat?, sign_of_isDigit digit, i, n]
  unfold number?
  split
  next same => exact (marked same (by decide) (by decide)).elim
  next same => exact (marked same (by decide) (by decide)).elim
  next same => exact (marked same (by decide) (by decide)).elim
  next => rw [unworded, Option.none_or]

theorem decimal?_toDigits {number : Nat} (small : number < 9223372036854775808)
    (rest : List Char) :
    decimal? (Nat.toDigits 10 number ++ '\n' :: rest) =
      some (.integer number, '\n' :: rest) := by
  have unsigned : sign (Nat.toDigits 10 number ++ '\n' :: rest) =
      (false, Nat.toDigits 10 number ++ '\n' :: rest) := by
    cases shown : Nat.toDigits 10 number with
    | nil => exact absurd shown Nat.toDigits_ne_nil
    | cons first digits =>
        have digit := Nat.isDigit_of_mem_toDigits (by decide) (by decide)
          (shown ▸ List.mem_cons_self : first ∈ Nat.toDigits 10 number)
        exact sign_of_isDigit digit _
  have bounded : boundedInteger? (number : Int) = some (.integer number) := by
    rw [boundedInteger?, if_pos]
    omega
  rw [decimal?, unsigned]
  simp only [wholeDigits?_toDigits, Option.bind_eq_bind, Option.bind_some, List.head?_cons,
    digitsValue_toDigits]
  have unexponented : beginsExponent ('\n' :: rest) = false := rfl
  rw [if_neg (by decide), unexponented]
  simp only [Bool.false_eq_true, if_false, bounded, Option.bind_some]
  rfl

/-! ### Values -/

/-- A written value that begins at once is read back from the end of its line. -/
structure ReadsAs (written : List Char) (value : Value) : Prop where
  visible : ∀ rest, (written ++ '\n' :: rest).dropWhile isBlank = written ++ '\n' :: rest
  read : ∀ rest, value? nestingLimit (written ++ '\n' :: rest) = some (value, '\n' :: rest)

theorem ReadsAs.of_cons {first : Char} {more : List Char} (visible : isBlank first = false)
    (read : ∀ rest, value? nestingLimit (first :: (more ++ '\n' :: rest)) =
      some (value, '\n' :: rest)) : ReadsAs (first :: more) value where
  visible := fun rest => List.dropWhile_cons_of_neg (by rw [visible]; decide)
  read := read

theorem writeInForm_begins (form : StringForm) (text : List Char) :
    ∃ first more, writeInForm form text = first :: more ∧
      (first = quoteMark ∨ first = apostrophe) := by
  cases form with
  | basic => exact ⟨quoteMark, _, rfl, .inl rfl⟩
  | literal => exact ⟨apostrophe, _, rfl, .inr rfl⟩
  | multilineBasic => exact ⟨quoteMark, _, rfl, .inl rfl⟩
  | multilineLiteral => exact ⟨apostrophe, _, rfl, .inr rfl⟩

theorem unquoted_lineFeed (rest : List Char) : Unquoted ('\n' :: rest) := by
  constructor
  · exact fun same => absurd (Option.some.inj same) (by decide)
  · exact fun same => absurd (Option.some.inj same) (by decide)

theorem readsAs_writeString (text : String) :
    ReadsAs (writeString text.toList) (.string text) := by
  obtain ⟨first, more, shown, quoted⟩ :=
    writeInForm_begins (chooseForm text.toList) text.toList
  have read (rest : List Char) : string? (writeString text.toList ++ '\n' :: rest) =
      some (String.ofList text.toList, '\n' :: rest) :=
    string?_writeString text.toList (unquoted_lineFeed rest)
  unfold writeString at read ⊢
  rw [shown] at read ⊢
  apply ReadsAs.of_cons
  · rcases quoted with rfl | rfl
    · decide
    · decide
  · intro rest
    rw [value?.eq_def]
    simp only
    rw [if_pos quoted, ← List.cons_append, read, String.ofList_toList]
    rfl

theorem readsAs_toString (truth : Bool) : ReadsAs (toString truth).toList (.boolean truth) := by
  cases truth with
  | true =>
      refine .of_cons (by decide) fun rest => ?_
      rw [value?.eq_def]
      rfl
  | false =>
      refine .of_cons (by decide) fun rest => ?_
      rw [value?.eq_def]
      rfl

theorem readsAs_toDigits {number : Nat} (small : number < 9223372036854775808) :
    ReadsAs (Nat.toDigits 10 number) (.integer number) := by
  have read := decimal?_toDigits small
  have all : ∀ c ∈ Nat.toDigits 10 number, c.isDigit = true := fun c member =>
    Nat.isDigit_of_mem_toDigits (by decide) (by decide) member
  cases shown : Nat.toDigits 10 number with
  | nil => exact absurd shown Nat.toDigits_ne_nil
  | cons first digits =>
      rw [shown] at read all
      have digit := all first List.mem_cons_self
      have apart {other : Char} (special : other.isDigit = false) : first ≠ other :=
        ne_of_isDigit digit special
      have space : first ≠ ' ' := apart (by decide)
      have tab : first ≠ '\t' := apart (by decide)
      apply ReadsAs.of_cons
      · simp [isBlank, space, tab]
      · intro rest
        have line : IsDigitLine (first :: (digits ++ '\n' :: rest)) :=
          ⟨first :: digits, rest, rfl, all⟩
        rw [value?.eq_def]
        simp only
        rw [if_neg, if_neg, if_neg, if_neg, line.dateTime?_eq_none, Option.none_or,
          number?_of_isDigitLine line digit]
        · exact read rest
        · rintro (rfl | rfl)
          · cases digit
          · cases digit
        · exact apart (by decide)
        · exact apart (by decide)
        · rintro (rfl | rfl)
          · cases digit
          · cases digit

/-! ### Statements -/

theorem writeBinding_append (key : String) (written rest : List Char) :
    writeBinding key written ++ rest =
      writeKey key.toList ++ ' ' :: '=' :: ' ' :: (written ++ '\n' :: rest) := by
  simp [writeBinding]

theorem writeHeader_append (key : String) (rest : List Char) :
    writeHeader key ++ rest = '\n' :: '[' :: (writeKey key.toList ++ ']' :: '\n' :: rest) := by
  simp [writeHeader]

theorem binding?_writeBinding (key : String) (reads : ReadsAs written value) (rest : List Char) :
    binding? (writeBinding key written ++ rest) =
      some (.binding ⟨[], key⟩ value, '\n' :: rest) := by
  have follows : (' ' :: '=' :: ' ' :: (written ++ '\n' :: rest)).dropWhile isBlank =
      '=' :: ' ' :: (written ++ '\n' :: rest) := rfl
  have spaced : (' ' :: (written ++ '\n' :: rest)).dropWhile isBlank =
      (written ++ '\n' :: rest).dropWhile isBlank := rfl
  rw [writeBinding_append, binding?,
    dottedKey?_writeKey key.toList (by decide) follows (by decide), String.ofList_toList]
  simp only [Option.bind_eq_bind, Option.bind_some, after?, if_true, spaced, reads.visible,
    reads.read]
  rfl

theorem header?_writeKey (key : String) (rest : List Char) :
    header? ('[' :: (writeKey key.toList ++ ']' :: rest)) = some (.header ⟨[], key⟩, rest) := by
  obtain ⟨first, more, shown, begins⟩ := writeKey_begins key.toList
  have named : dottedKey? (writeKey key.toList ++ ']' :: rest) =
      some (⟨[], String.ofList key.toList⟩, ']' :: rest) :=
    dottedKey?_writeKey key.toList (by decide) rfl (by decide)
  unfold header?
  split
  next same =>
      rw [shown] at same
      exact absurd (List.cons.inj (List.cons.inj same).2).1 (ne_of_beginsKey begins (by decide))
  next same =>
      cases same
      rw [named, String.ofList_toList]
      simp only [Option.bind_eq_bind, Option.bind_some, after?, if_true]
      rfl
  next other => exact absurd rfl (other _)

theorem restOfLine?_lineFeed (rest : List Char) : restOfLine? ('\n' :: rest) = some rest := rfl

/-- A text is read as statements, in no more steps than it has characters. -/
def Spells (text : List Char) (statements : List Statement) : Prop :=
  ∀ rest fuel, ∃ left, fuel ≤ left ∧
    statementsWithin? (text.length + fuel) (text ++ rest) =
      (statementsWithin? left rest).map (statements ++ ·)

theorem spells_nil : Spells [] [] := by
  intro rest fuel
  refine ⟨fuel, Nat.le_refl _, ?_⟩
  rw [List.length_nil, Nat.zero_add, List.nil_append]
  cases statementsWithin? fuel rest with
  | none => rfl
  | some statements => rfl

theorem Spells.append {first second : List Char} {begun later : List Statement}
    (one : Spells first begun) (two : Spells second later) :
    Spells (first ++ second) (begun ++ later) := by
  intro rest fuel
  -- The steps that the first text leaves over are enough for the second one.
  obtain ⟨middle, enough, reads⟩ := one (second ++ rest) (second.length + fuel)
  obtain ⟨left, kept, ends⟩ := two rest (middle - second.length)
  refine ⟨left, by omega, ?_⟩
  have whole : (first ++ second).length + fuel = first.length + (second.length + fuel) := by
    rw [List.length_append, Nat.add_assoc]
  have split : middle = second.length + (middle - second.length) := by omega
  rw [whole, List.append_assoc, reads, split, ends]
  cases statementsWithin? left rest with
  | none => rfl
  | some statements => simp

theorem statementsWithin?_lineFeed (fuel : Nat) (rest : List Char) :
    statementsWithin? (fuel + 1) ('\n' :: rest) = statementsWithin? fuel rest := by
  have shown : ('\n' :: rest).dropWhile isBlank = '\n' :: rest := rfl
  rw [statementsWithin?, shown]
  simp only [or_true, true_or, if_true, restOfLine?_lineFeed, Option.bind_eq_bind, Option.bind_some]

theorem statementsWithin?_of_binding? {statement : Statement} (begins : beginsKey c = true)
    (read : binding? (c :: text) = some (statement, '\n' :: rest)) (fuel : Nat) :
    statementsWithin? (fuel + 1) (c :: text) =
      (statementsWithin? fuel rest).map (statement :: ·) := by
  have goes : ¬ (c = '#' ∨ c = '\n' ∨ c = '\r') := by
    rintro (rfl | rfl | rfl)
    all_goals exact absurd begins (by decide)
  have other : ¬ c = '[' := ne_of_beginsKey begins (by decide)
  have shown : (c :: text).dropWhile isBlank = c :: text :=
    List.dropWhile_cons_of_neg (by rw [isBlank_of_beginsKey begins]; decide)
  rw [statementsWithin?, shown]
  simp only [if_neg goes, if_neg other, read, Option.bind_eq_bind, Option.bind_some,
    restOfLine?_lineFeed]
  cases statementsWithin? fuel rest with
  | none => rfl
  | some statements => rfl

theorem statementsWithin?_of_header? {statement : Statement}
    (read : header? ('[' :: text) = some (statement, '\n' :: rest)) (fuel : Nat) :
    statementsWithin? (fuel + 1) ('[' :: text) =
      (statementsWithin? fuel rest).map (statement :: ·) := by
  have goes : ¬ ('[' = '#' ∨ '[' = '\n' ∨ '[' = '\r') := by decide
  have shown : ('[' :: text).dropWhile isBlank = '[' :: text := rfl
  rw [statementsWithin?, shown]
  simp only [if_neg goes, if_true, read, Option.bind_eq_bind, Option.bind_some,
    restOfLine?_lineFeed]
  cases statementsWithin? fuel rest with
  | none => rfl
  | some statements => rfl

theorem spells_writeBinding (key : String) (reads : ReadsAs written value) :
    Spells (writeBinding key written) [.binding ⟨[], key⟩ value] := by
  intro rest fuel
  obtain ⟨first, more, shown, begins⟩ := writeKey_begins key.toList
  have begun : writeBinding key written ++ rest =
      first :: (more ++ ' ' :: '=' :: ' ' :: (written ++ '\n' :: rest)) := by
    rw [writeBinding_append, shown, List.cons_append]
  have bound := binding?_writeBinding key reads rest
  have long : (writeBinding key written).length + fuel =
      (writeBinding key written).length - 1 + fuel + 1 := by
    have positive : 0 < (writeBinding key written).length := by
      simp only [writeBinding, List.length_append, List.length_cons]
      omega
    omega
  refine ⟨(writeBinding key written).length - 1 + fuel, by omega, ?_⟩
  rw [long]
  rw [begun] at bound ⊢
  exact statementsWithin?_of_binding? begins bound _

theorem spells_writeHeader (key : String) :
    Spells (writeHeader key) [.header ⟨[], key⟩] := by
  intro rest fuel
  have long : (writeHeader key).length + fuel = (writeHeader key).length - 2 + fuel + 1 + 1 := by
    have positive : 2 ≤ (writeHeader key).length := by simp [writeHeader]
    omega
  refine ⟨(writeHeader key).length - 2 + fuel, by omega, ?_⟩
  rw [long, writeHeader_append, statementsWithin?_lineFeed]
  exact statementsWithin?_of_header? (header?_writeKey key ('\n' :: rest)) _

theorem Spells.statements? {text : List Char} {statements : List Statement}
    (spells : Spells text statements) (unmarked : text.head? ≠ some '\uFEFF') :
    Toml.statements? text = some statements := by
  obtain ⟨left, enough, reads⟩ := spells [] 1
  have ends : statementsWithin? left [] = some [] := by
    cases left with
    | zero => cases enough
    | succ left => rfl
  rw [List.append_nil, ends, Option.map_some, List.append_nil] at reads
  unfold Toml.statements?
  split
  next => exact absurd rfl unmarked
  next => exact reads

end Scaffold.Toml
