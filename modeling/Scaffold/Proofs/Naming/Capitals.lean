import Mathlib
import Scaffold.Naming.Style

/-! Capitals of a name.

The styles that capitalize read a name once, with a flag that tells whether a word begins. What
they come to is said here without the flag: the name is divided at its separators, and in each
piece the first character and those after a break are capitals (`classLike_by_pieces`).

Of two readings one after the other the second begins a word where it did by itself or where the
first one did. So a style that begins words wherever another one does undoes nothing of it, and the
styles absorb one another (`styles_absorb`). -/

set_option autoImplicit false

namespace Scaffold.Naming

variable {holds isSeparator isBreak innerSeparator innerBreak : Char → Bool}
variable {c separator : Char} {start : Bool} {before : Option Char} {name front back : List Char}

/-! ### Separators, breaks and letters -/

def nameSeparators : List Char := ['-', '_', ' ']

def nameBreaks : List Char := ['\t', '\n', '\x0b', '\x0c', '\r']

theorem isNameSeparator_eq (c : Char) : isNameSeparator c = decide (c ∈ nameSeparators) := by
  rw [Bool.eq_iff_iff]
  simp only [isNameSeparator, nameSeparators, Bool.or_eq_true, beq_iff_eq, decide_eq_true_eq,
    List.mem_cons, List.not_mem_nil, or_false, or_assoc]

theorem isNameBreak_eq (c : Char) : isNameBreak c = decide (c ∈ nameBreaks) := by
  have code (other : Char) : c = other ↔ c.toNat = other.toNat :=
    ⟨congrArg Char.toNat, Char.toNat_inj.mp⟩
  rw [Bool.eq_iff_iff]
  simp only [isNameBreak, nameBreaks, Bool.and_eq_true, decide_eq_true_eq, List.mem_cons,
    List.not_mem_nil, or_false, code, Char.reduceToNat]
  omega

theorem toUpper_of_not_isAlpha (other : c.isAlpha = false) : c.toUpper = c := by
  apply Char.toUpper_eq_of_not_isLower
  intro lower
  rw [Char.isAlpha, lower, Bool.or_true] at other
  cases other

theorem toLower_of_not_isAlpha (other : c.isAlpha = false) : c.toLower = c := by
  apply Char.toLower_eq_of_not_isUpper
  intro upper
  rw [Char.isAlpha, upper, Bool.true_or] at other
  cases other

/-- A class of characters of which none can belong to a word. -/
def Wordless (holds : Char → Bool) : Prop := ∀ c, holds c = true → c.isAlphanum = false

theorem wordless_isNameSeparator : Wordless isNameSeparator := by
  intro c inside
  simp only [isNameSeparator_eq, decide_eq_true_eq, nameSeparators, List.mem_cons,
    List.not_mem_nil, or_false] at inside
  rcases inside with rfl | rfl | rfl
  all_goals rfl

theorem wordless_isNameBreak : Wordless isNameBreak := by
  intro c inside
  simp only [isNameBreak_eq, decide_eq_true_eq, nameBreaks, List.mem_cons, List.not_mem_nil,
    or_false] at inside
  rcases inside with rfl | rfl | rfl | rfl | rfl
  all_goals rfl

namespace Wordless

theorem eq_false (wordless : Wordless holds) (known : c.isAlphanum = true) : holds c = false := by
  apply Bool.eq_false_iff.mpr
  intro inside
  rw [wordless c inside] at known
  cases known

theorem isAlpha_eq_false (wordless : Wordless holds) (inside : holds c = true) :
    c.isAlpha = false :=
  (Bool.or_eq_false_iff.mp (wordless c inside)).1

theorem toUpper (wordless : Wordless holds) (c : Char) : holds c.toUpper = holds c := by
  cases letter : c.isAlpha with
  | true =>
      rw [wordless.eq_false, wordless.eq_false]
      · rw [Char.isAlphanum, letter, Bool.true_or]
      · rw [Char.isAlphanum, Char.isAlpha_toUpper_eq_isAlpha, letter, Bool.true_or]
  | false => rw [toUpper_of_not_isAlpha letter]

theorem toLower (wordless : Wordless holds) (c : Char) : holds c.toLower = holds c := by
  cases letter : c.isAlpha with
  | true =>
      rw [wordless.eq_false, wordless.eq_false]
      · rw [Char.isAlphanum, letter, Bool.true_or]
      · rw [Char.isAlphanum, Char.isAlpha_toLower_eq_isAlpha, letter, Bool.true_or]
  | false => rw [toLower_of_not_isAlpha letter]

end Wordless

/-! ### Pieces between separators -/

def capitalsAfter (before : Option Char) (piece : List Char) : List Char :=
  List.zipWith
    (fun previous c => if previous.all (fun other => other ∈ nameBreaks) then c.toUpper else c)
    (before :: piece.map some) piece

def capitalizedPiece (piece : List Char) : List Char := capitalsAfter none piece

theorem capitalsAfter_cons (before : Option Char) (c : Char) (piece : List Char) :
    capitalsAfter before (c :: piece) =
      (if before.all (fun other => other ∈ nameBreaks) then c.toUpper else c) ::
        capitalsAfter (some c) piece := rfl

/-- The flag of the scanner is on exactly after a break and where a piece begins. -/
theorem capitalizeWords_eq_pieces (before : Option Char) (name : List Char) :
    ∃ piece pieces, name.splitOnP isNameSeparator = piece :: pieces ∧
      capitalizeWords isNameSeparator isNameBreak (before.all isNameBreak) name =
        capitalsAfter before piece ++ pieces.flatMap capitalizedPiece := by
  induction name generalizing before with
  | nil => exact ⟨[], [], List.splitOnP_nil, rfl⟩
  | cons c name ih =>
      rw [List.splitOnP_cons_eq_if_modifyHead, capitalizeWords]
      cases apart : isNameSeparator c with
      | true =>
          obtain ⟨piece, pieces, divided, read⟩ := ih none
          refine ⟨[], piece :: pieces, ?_, ?_⟩
          · rw [if_pos rfl, divided]
          · rw [if_pos rfl]
            exact read
      | false =>
          obtain ⟨piece, pieces, divided, read⟩ := ih (some c)
          refine ⟨c :: piece, pieces, ?_, ?_⟩
          · rw [if_neg (by decide), divided, List.modifyHead_cons]
          · rw [if_neg (by decide), capitalsAfter_cons, List.cons_append, ← read]
            simp only [Option.all_some, ← isNameBreak_eq]
            cases breaks : isNameBreak c with
            | true =>
                have same := toUpper_of_not_isAlpha (wordless_isNameBreak.isAlpha_eq_false breaks)
                rw [if_pos rfl, same, ite_self]
            | false => rw [if_neg (by decide)]

theorem classStyle_eq_pieces (name : List Char) :
    classStyle name = (name.splitOnP isNameSeparator).flatMap capitalizedPiece := by
  obtain ⟨piece, pieces, divided, read⟩ := capitalizeWords_eq_pieces none name
  rw [divided, List.flatMap_cons]
  exact read

theorem classStyle_append_separator (apart : isNameSeparator separator = true)
    (front back : List Char) :
    classStyle (front ++ separator :: back) = classStyle front ++ classStyle back := by
  rw [classStyle_eq_pieces, List.splitOnP_append_cons front back apart, List.flatMap_append,
    ← classStyle_eq_pieces, ← classStyle_eq_pieces]

theorem isSeparator_of_mem_capitalizeWords (wordless : Wordless isSeparator)
    (member : c ∈ capitalizeWords isSeparator isBreak start name) : isSeparator c = false := by
  fun_induction capitalizeWords isSeparator isBreak start name with
  | case1 => cases member
  | case2 start other rest apart ih => exact ih member
  | case3 start other rest within breaks ih =>
      rcases List.mem_cons.mp member with rfl | later
      · exact eq_false_of_ne_true within
      · exact ih later
  | case4 start other rest within plain ih =>
      rcases List.mem_cons.mp member with rfl | later
      · have kept : isSeparator other = false := eq_false_of_ne_true within
        cases start with
        | true => rw [if_pos rfl, wordless.toUpper, kept]
        | false => exact kept
      · exact ih later

/-- The class style of a name capitalizes, in each piece between separators, the first character and
those after a break; the separators go, and everything else stays. So the class style of two names
with a separator between them is that of the one followed by that of the other. -/
theorem classLike_by_pieces (name : String) :
    Style.classLike.apply name = String.ofList
        ((name.toList.splitOnP fun c => c ∈ nameSeparators).flatMap capitalizedPiece) ∧
      (∀ front back : String, ∀ separator ∈ nameSeparators,
        Style.classLike.apply (front ++ String.singleton separator ++ back) =
          Style.classLike.apply front ++ Style.classLike.apply back) ∧
      ∀ c ∈ (Style.classLike.apply name).toList, c ∉ nameSeparators := by
  have listed : (fun c => decide (c ∈ nameSeparators)) = isNameSeparator :=
    funext fun c => (isNameSeparator_eq c).symm
  refine ⟨?_, ?_, ?_⟩
  · rw [listed, Style.apply, classStyle_eq_pieces]
  · intro front back separator member
    have apart : isNameSeparator separator = true := by
      rw [isNameSeparator_eq, decide_eq_true_eq]
      exact member
    simp only [Style.apply, String.toList_append, String.toList_singleton, List.append_assoc,
      List.singleton_append, classStyle_append_separator apart, String.ofList_append]
  · intro c member
    rw [Style.apply, String.toList_ofList] at member
    have within := isSeparator_of_mem_capitalizeWords wordless_isNameSeparator member
    rw [isNameSeparator_eq, decide_eq_false_iff_not] at within
    exact within

theorem classLike_by_pieces_joined :
    '_' ∈ nameSeparators ∧
      Style.classLike.apply ("a-\tb" ++ String.singleton '_' ++ " éc d") =
        Style.classLike.apply "a-\tb" ++ Style.classLike.apply " éc d" ∧
      Style.classLike.apply "a-\tb" = "A\tB" ∧ Style.classLike.apply " éc d" = "écD" := by
  obtain ⟨-, joined, -⟩ := classLike_by_pieces "a-\tb"
  exact ⟨by decide, joined "a-\tb" " éc d" '_' (by decide), by decide, by decide⟩

/-! ### One reading after another -/

/-- The second of two readings begins a word where it did by itself or where the first one did, if
it drops what the first one drops and begins words after whatever the first one does. -/
theorem capitalizeWords_capitalizeWords (separators : Wordless isSeparator)
    (breaks : Wordless isBreak) (drops : ∀ c, innerSeparator c = true → isSeparator c = true)
    (begins : ∀ c, innerBreak c = true → isSeparator c = true ∨ isBreak c = true)
    (outer inner : Bool) (name : List Char) :
    capitalizeWords isSeparator isBreak outer
        (capitalizeWords innerSeparator innerBreak inner name) =
      capitalizeWords isSeparator isBreak (outer || inner) name := by
  induction name generalizing outer inner with
  | nil => rfl
  | cons c name ih =>
      cases dropped : innerSeparator c with
      | true =>
          simp only [capitalizeWords, dropped, drops c dropped, if_true]
          rw [ih, Bool.or_true]
      | false =>
          cases broken : innerBreak c with
          | true =>
              simp only [capitalizeWords, dropped, broken, Bool.false_eq_true, if_false, if_true,
                ih, Bool.true_or]
              -- The flag of the second reading is on after `c`, as that of the first one is.
              rcases begins c broken with apart | breaks
              · rw [if_pos apart, if_pos apart]
              · rw [if_pos breaks, if_pos breaks]
          | false =>
              have same (holds : Char → Bool) (wordless : Wordless holds) :
                  holds (if inner then c.toUpper else c) = holds c := by
                cases inner with
                | true => exact wordless.toUpper c
                | false => rfl
              simp only [capitalizeWords, dropped, broken, Bool.false_eq_true, if_false,
                same _ separators, same _ breaks, ih, Bool.or_false]
              cases apart : isSeparator c with
              | true => rfl
              | false =>
                  cases ended : isBreak c with
                  | true =>
                      have kept := toUpper_of_not_isAlpha (breaks.isAlpha_eq_false ended)
                      simp only [if_true, kept, ite_self]
                  | false =>
                      have upper : (if inner then c.toUpper else c).toUpper = c.toUpper := by
                        cases inner with
                        | true => exact Char.toUpper_toUpper_eq_toUpper c
                        | false => rfl
                      cases outer with
                      | true =>
                          simp only [Bool.false_eq_true, if_false, if_true, upper, Bool.true_or]
                      | false => rfl

/-- The case of the first character does not matter where a word begins. -/
theorem capitalizeWords_lowerFirst (separators : Wordless isSeparator)
    (breaks : Wordless isBreak) (name : List Char) :
    capitalizeWords isSeparator isBreak true (lowerFirst name) =
      capitalizeWords isSeparator isBreak true name := by
  cases name with
  | nil => rfl
  | cons c name =>
      simp only [lowerFirst, capitalizeWords, separators.toLower, breaks.toLower, if_true,
        Char.toUpper_toLower_eq_toUpper]
      cases isSeparator c with
      | true => rfl
      | false =>
          cases ended : isBreak c with
          | true => rw [toLower_of_not_isAlpha (breaks.isAlpha_eq_false ended)]
          | false => rfl

theorem capitalizeWords_congr
    (same : ∀ c ∈ name, innerSeparator c = isSeparator c ∧ innerBreak c = isBreak c) :
    capitalizeWords innerSeparator innerBreak start name =
      capitalizeWords isSeparator isBreak start name := by
  induction name generalizing start with
  | nil => rfl
  | cons c name ih =>
      obtain ⟨apart, ended⟩ := same c List.mem_cons_self
      have later (begun : Bool) : capitalizeWords innerSeparator innerBreak begun name =
          capitalizeWords isSeparator isBreak begun name :=
        ih fun other member => same other (List.mem_cons_of_mem c member)
      rw [capitalizeWords, capitalizeWords, apart, ended, later, later]

theorem tail_lowerFirst (name : List Char) : (lowerFirst name).tail = name.tail := by
  cases name with
  | nil => rfl
  | cons c name => rfl

theorem classStyle_classStyle (name : List Char) : classStyle (classStyle name) = classStyle name :=
  capitalizeWords_capitalizeWords wordless_isNameSeparator wordless_isNameBreak (fun _ => id)
    (fun _ => Or.inr) true true name

theorem classStyle_lowerFirst (name : List Char) : classStyle (lowerFirst name) = classStyle name :=
  capitalizeWords_lowerFirst wordless_isNameSeparator wordless_isNameBreak name

theorem classStyle_slugStyle (name : List Char) :
    classStyle (slugStyle name) = classStyle name := by
  apply capitalizeWords_capitalizeWords wordless_isNameSeparator wordless_isNameBreak
  · intro c hyphen
    rw [eq_of_beq hyphen]
    rfl
  · exact fun c never => nomatch never

theorem slugStyle_eq_classStyle (plain : ∀ c ∈ name, c ≠ '_' ∧ c ≠ ' ' ∧ c ∉ nameBreaks) :
    slugStyle name = classStyle name := by
  apply capitalizeWords_congr
  intro c member
  obtain ⟨underscore, space, unbroken⟩ := plain c member
  rw [isNameBreak_eq, decide_eq_false unbroken, isNameSeparator, beq_false_of_ne underscore,
    beq_false_of_ne space, Bool.or_false, Bool.or_false]
  exact ⟨rfl, rfl⟩

/-- The class style of a name in class, variable or slug style is that of the name, and so is the
variable style of a name in class or variable style. The class and the variable style differ in the
first character only, and the class and the slug style only for names with an underscore, a space or
a break. -/
theorem styles_absorb (name : String) :
    Style.classLike.apply (Style.classLike.apply name) = Style.classLike.apply name ∧
      Style.classLike.apply (Style.variableLike.apply name) = Style.classLike.apply name ∧
      Style.classLike.apply (Style.slugLike.apply name) = Style.classLike.apply name ∧
      Style.variableLike.apply (Style.classLike.apply name) = Style.variableLike.apply name ∧
      Style.variableLike.apply (Style.variableLike.apply name) = Style.variableLike.apply name ∧
      (Style.variableLike.apply name).toList.tail = (Style.classLike.apply name).toList.tail ∧
      ((∀ c ∈ name.toList, c ≠ '_' ∧ c ≠ ' ' ∧ c ∉ nameBreaks) →
        Style.slugLike.apply name = Style.classLike.apply name) := by
  simp only [Style.apply, variableStyle, String.toList_ofList, classStyle_lowerFirst,
    classStyle_classStyle, classStyle_slugStyle, tail_lowerFirst, true_and]
  intro plain
  rw [slugStyle_eq_classStyle plain]

theorem styles_absorb_hyphenated :
    (∀ c ∈ "é2-b--C".toList, c ≠ '_' ∧ c ≠ ' ' ∧ c ∉ nameBreaks) ∧
      Style.slugLike.apply "é2-b--C" = Style.classLike.apply "é2-b--C" ∧
      Style.classLike.apply "é2-b--C" = "é2BC" := by
  obtain ⟨-, -, -, -, -, -, hyphens⟩ := styles_absorb "é2-b--C"
  have plain : ∀ c ∈ "é2-b--C".toList, c ≠ '_' ∧ c ≠ ' ' ∧ c ∉ nameBreaks := by
    simp [nameBreaks]
  exact ⟨plain, hyphens plain, by decide⟩

end Scaffold.Naming
