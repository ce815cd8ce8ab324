import Mathlib
import Scaffold.Naming.Style

/-! Words lose and invent nothing.

The words of a name put together are its letters and digits, and no word is empty: one that ends
before the letter last read has the capital before that letter. A word without capitals is not
divided any further, so the styles that join the words of a name in lower case have the same words
again. Main statement: `snake_and_kebab_styles`. -/

set_option autoImplicit false

namespace Scaffold.Naming

variable {before : LetterCase} {c separator : Char} {name text run : List Char}
variable {found : List (List Char)}

/-! ### Letters and digits -/

def isSmall (c : Char) : Bool := c.isLower || c.isDigit

theorem isAlphanum_of_isSmall (small : isSmall c = true) : c.isAlphanum = true := by
  simp only [isSmall, Char.isAlphanum, Char.isAlpha, Bool.or_eq_true] at small ⊢
  rcases small with lower | digit
  · exact .inl (.inr lower)
  · exact .inr digit

theorem isUpper_of_isDigit (digit : c.isDigit = true) : c.isUpper = false := by
  have bounds : 48 ≤ c.toNat ∧ c.toNat ≤ 57 := Char.isDigit_iff_toNat.mp digit
  simp only [Char.isUpper, UInt32.le_iff_toNat_le, Char.toNat_val, decide_eq_false_iff_not,
    Char.reduceVal, UInt32.reduceToNat, ge_iff_le]
  omega

theorem isUpper_of_isSmall (small : isSmall c = true) : c.isUpper = false := by
  rcases (Bool.or_eq_true _ _).mp small with lower | digit
  · exact Bool.eq_false_iff.mpr (Char.not_isUpper_of_isLower lower)
  · exact isUpper_of_isDigit digit

theorem isSmall_toLower (known : c.isAlphanum = true) : isSmall c.toLower = true := by
  rcases (Bool.or_eq_true _ _).mp known with letter | digit
  · rw [isSmall, Char.isLower_toLower_eq_isAlpha, letter, Bool.true_or]
  · have plain : ¬ c.isUpper = true := Bool.eq_false_iff.mp (isUpper_of_isDigit digit)
    rw [isSmall, Char.toLower_eq_of_not_isUpper plain, digit, Bool.or_true]

theorem toLower_of_isSmall (small : isSmall c = true) : c.toLower = c :=
  Char.toLower_eq_of_not_isUpper (Bool.eq_false_iff.mp (isUpper_of_isSmall small))

/-! ### Words within a run -/

theorem flatten_prependToFirst (c : Char) (found : List (List Char)) :
    (prependToFirst c found).flatten = c :: found.flatten := by
  cases found with
  | nil => rfl
  | cons word found => rfl

theorem nil_not_mem_prependToFirst (later : [] ∉ found.tail) : [] ∉ prependToFirst c found := by
  cases found with
  | nil => simp [prependToFirst]
  | cons word found => simpa [prependToFirst] using later

theorem flatten_humps (before : LetterCase) (text : List Char) :
    (humps before text).flatten = text := by
  fun_induction humps before text with
  | case1 => rfl
  | case2 => rfl
  | case3 before c next rest ends ih => rw [List.flatten_cons, ih, List.singleton_append]
  | case4 before c next rest goes ends ih =>
      rw [List.flatten_cons, flatten_prependToFirst, ih, List.nil_append]
  | case5 before c next rest goes stays ih => rw [flatten_prependToFirst, ih]

/-- Only the word under way can end before the first character, and only after a capital. -/
theorem nil_not_mem_humps (before : LetterCase) (text : List Char) :
    [] ∉ (humps before text).tail ∧ (before ≠ .upper → [] ∉ humps before text) := by
  -- A word begins afresh without a case, so the second part gives the first for the words after it.
  fun_induction humps before text with
  | case1 => simp
  | case2 => simp
  | case3 before c next rest ends ih =>
      have whole := ih.2 (by decide)
      exact ⟨whole, fun _ => by simpa using whole⟩
  | case4 before c next rest goes ends ih =>
      exact ⟨nil_not_mem_prependToFirst ih.1, fun other => absurd ends.1 other⟩
  | case5 before c next rest goes stays ih =>
      have whole := nil_not_mem_prependToFirst (c := c) ih.1
      exact ⟨fun later => whole (List.mem_of_mem_tail later), fun _ => whole⟩

theorem humps_of_not_isUpper (present : text ≠ []) (plain : ∀ c ∈ text, c.isUpper = false) :
    humps before text = [text] := by
  fun_induction humps before text with
  | case1 => exact absurd rfl present
  | case2 => rfl
  | case3 before c next rest ends ih =>
      have small := plain next (by simp)
      rw [ends.2] at small
      cases small
  | case4 before c next rest goes ends ih =>
      have small := plain c (by simp)
      rw [ends.2.1] at small
      cases small
  | case5 before c next rest goes stays ih =>
      rw [ih (List.cons_ne_nil _ _) fun later member => plain later (List.mem_cons_of_mem _ member)]
      rfl

/-! ### Runs of a name -/

theorem runs_ne_nil (name : List Char) : runs name ≠ [] := by
  cases name with
  | nil => exact List.cons_ne_nil _ _
  | cons c rest =>
      rw [runs]
      split
      · cases runs rest <;> exact List.cons_ne_nil _ _
      · exact List.cons_ne_nil _ _

theorem flatten_runs (name : List Char) : (runs name).flatten = name.filter Char.isAlphanum := by
  induction name with
  | nil => rfl
  | cons c rest ih =>
      rw [runs]
      split
      next known => rw [flatten_prependToFirst, ih, List.filter_cons_of_pos known]
      next other => rw [List.flatten_cons, ih, List.filter_cons_of_neg other, List.nil_append]

theorem runs_of_isAlphanum (known : ∀ c ∈ text, c.isAlphanum = true) : runs text = [text] := by
  induction text with
  | nil => rfl
  | cons c rest ih =>
      rw [runs, if_pos (known c List.mem_cons_self),
        ih fun later member => known later (List.mem_cons_of_mem c member)]
      rfl

theorem runs_append_separator (apart : separator.isAlphanum = false) (front back : List Char) :
    runs (front ++ separator :: back) = runs front ++ runs back := by
  induction front with
  | nil =>
      have other : ¬ separator.isAlphanum = true := Bool.eq_false_iff.mp apart
      rw [List.nil_append, runs, runs, if_neg other]
      rfl
  | cons c front ih =>
      rw [List.cons_append, runs, runs, ih]
      split
      · obtain ⟨word, found, shown⟩ := List.exists_cons_of_ne_nil (runs_ne_nil front)
        rw [shown]
        rfl
      · rfl

/-! ### Words of a name -/

theorem flatten_words (name : List Char) : (words name).flatten = name.filter Char.isAlphanum := by
  have divided (found : List (List Char)) :
      (found.flatMap (humps .none)).flatten = found.flatten := by
    induction found with
    | nil => rfl
    | cons run found ih =>
        rw [List.flatMap_cons, List.flatten_append, flatten_humps, ih, List.flatten_cons]
  rw [words, divided, flatten_runs]

theorem nil_not_mem_words (name : List Char) : [] ∉ words name := by
  intro member
  obtain ⟨run, -, inside⟩ := List.mem_flatMap.mp member
  exact (nil_not_mem_humps .none run).2 (by decide) inside

theorem words_append_separator (apart : separator.isAlphanum = false) (front back : List Char) :
    words (front ++ separator :: back) = words front ++ words back := by
  rw [words, runs_append_separator apart, List.flatMap_append]
  rfl

def IsSmallWord (word : List Char) : Prop := word ≠ [] ∧ ∀ c ∈ word, isSmall c = true

theorem words_of_isSmallWord (small : IsSmallWord run) : words run = [run] := by
  have plain : ∀ c ∈ run, c.isUpper = false :=
    fun c member => isUpper_of_isSmall (small.2 c member)
  rw [words, runs_of_isAlphanum fun c member => isAlphanum_of_isSmall (small.2 c member),
    List.flatMap_singleton, humps_of_not_isUpper small.1 plain]

theorem words_intercalate (apart : separator.isAlphanum = false)
    (small : ∀ run ∈ found, IsSmallWord run) : words ([separator].intercalate found) = found := by
  induction found with
  | nil => rfl
  | cons run found ih =>
      have first := words_of_isSmallWord (small run List.mem_cons_self)
      have later := ih fun other member => small other (List.mem_cons_of_mem run member)
      cases found with
      | nil => rw [List.intercalate_singleton, first]
      | cons next found =>
          rw [List.intercalate_cons_cons, List.append_assoc, List.singleton_append,
            words_append_separator apart, first, later]
          rfl

/-! ### Words joined in lower case -/

def smallWords (name : List Char) : List (List Char) :=
  (words name).map fun word => word.map Char.toLower

theorem joinedStyle_eq (separator : Char) (name : List Char) :
    joinedStyle separator name = [separator].intercalate (smallWords name) := rfl

theorem isSmallWord_of_mem_smallWords (member : run ∈ smallWords name) : IsSmallWord run := by
  obtain ⟨word, listed, rfl⟩ := List.mem_map.mp member
  constructor
  · intro blank
    rw [List.map_eq_nil_iff] at blank
    exact nil_not_mem_words name (blank ▸ listed)
  · intro c lowered
    obtain ⟨letter, inside, rfl⟩ := List.mem_map.mp lowered
    have all : letter ∈ name.filter Char.isAlphanum := by
      rw [← flatten_words]
      exact List.mem_flatten.mpr ⟨word, listed, inside⟩
    exact isSmall_toLower (List.mem_filter.mp all).2

theorem flatten_smallWords (name : List Char) :
    (smallWords name).flatten = (name.filter Char.isAlphanum).map Char.toLower := by
  rw [smallWords, ← List.map_flatten, flatten_words]

theorem map_toLower_of_isSmallWord (small : IsSmallWord run) : run.map Char.toLower = run := by
  have kept : run.map Char.toLower = run.map id :=
    List.map_congr_left fun c member => toLower_of_isSmall (small.2 c member)
  rw [kept, List.map_id]

theorem smallWords_joinedStyle (apart : separator.isAlphanum = false) (name : List Char) :
    smallWords (joinedStyle separator name) = smallWords name := by
  have again : words (joinedStyle separator name) = smallWords name :=
    words_intercalate apart fun run member => isSmallWord_of_mem_smallWords member
  have kept :
      (smallWords name).map (fun word => word.map Char.toLower) = (smallWords name).map id :=
    List.map_congr_left fun run member =>
      map_toLower_of_isSmallWord (isSmallWord_of_mem_smallWords member)
  rw [smallWords, again, kept, List.map_id]

/-- Joining again, with any separator, forgets the separator of the first time. -/
theorem joinedStyle_joinedStyle (apart : separator.isAlphanum = false) (other : Char)
    (name : List Char) :
    joinedStyle other (joinedStyle separator name) = joinedStyle other name := by
  rw [joinedStyle_eq, smallWords_joinedStyle apart, joinedStyle_eq]

theorem filter_intercalate (absent : ∀ run ∈ found, separator ∉ run) :
    ([separator].intercalate found).filter (· != separator) = found.flatten := by
  induction found with
  | nil => rfl
  | cons run found ih =>
      have kept : run.filter (· != separator) = run := by
        apply List.filter_eq_self.mpr
        intro c member
        apply bne_iff_ne.mpr
        rintro rfl
        exact absent run List.mem_cons_self member
      have later := ih fun other member => absent other (List.mem_cons_of_mem run member)
      cases found with
      | nil => rw [List.intercalate_singleton, kept, List.flatten_singleton]
      | cons next found =>
          rw [List.intercalate_cons_cons, List.filter_append, List.filter_append, kept, later,
            List.flatten_cons]
          simp

theorem map_intercalate (replace : Char → Char) (separator : Char) (found : List (List Char)) :
    ([separator].intercalate found).map replace =
      [replace separator].intercalate (found.map fun run => run.map replace) := by
  induction found with
  | nil => rfl
  | cons run found ih =>
      cases found with
      | nil => simp
      | cons next found =>
          rw [List.intercalate_cons_cons, List.map_append, List.map_append, ih]
          simp

theorem not_mem_of_isSmallWord (apart : separator.isAlphanum = false) (small : IsSmallWord run) :
    separator ∉ run := by
  intro member
  have known := isAlphanum_of_isSmall (small.2 separator member)
  rw [apart] at known
  cases known

theorem filter_joinedStyle (apart : separator.isAlphanum = false) (name : List Char) :
    (joinedStyle separator name).filter (· != separator) =
      (name.filter Char.isAlphanum).map Char.toLower := by
  rw [joinedStyle_eq, filter_intercalate, flatten_smallWords]
  exact fun run member => not_mem_of_isSmallWord apart (isSmallWord_of_mem_smallWords member)

theorem map_joinedStyle (apart : separator.isAlphanum = false) (other : Char) (name : List Char) :
    (joinedStyle separator name).map (fun c => if c = separator then other else c) =
      joinedStyle other name := by
  have kept : (smallWords name).map
      (fun run => run.map fun c => if c = separator then other else c) =
        (smallWords name).map id := by
    apply List.map_congr_left
    intro run member
    have absent := not_mem_of_isSmallWord apart (isSmallWord_of_mem_smallWords member)
    have same : run.map (fun c => if c = separator then other else c) = run.map id := by
      apply List.map_congr_left
      intro c inside
      apply if_neg
      rintro rfl
      exact absent inside
    rw [same, List.map_id, id]
  rw [joinedStyle_eq, map_intercalate, kept, List.map_id, if_pos rfl, joinedStyle_eq]

/-- A name in snake style is small words with an underscore between any two of them; without the
underscores it is the letters and digits of the name in lower case. The kebab style has a hyphen for
each underscore, and a name in either style has the same snake and kebab style as before. -/
theorem snake_and_kebab_styles (name : String) :
    (∃ found : List (List Char), (∀ word ∈ found, IsSmallWord word) ∧
        Style.snake.apply name = String.ofList (['_'].intercalate found)) ∧
      (Style.snake.apply name).toList.filter (· != '_') =
        (name.toList.filter Char.isAlphanum).map Char.toLower ∧
      Style.kebab.apply name =
        String.ofList ((Style.snake.apply name).toList.map fun c => if c = '_' then '-' else c) ∧
      Style.snake.apply (Style.snake.apply name) = Style.snake.apply name ∧
      Style.snake.apply (Style.kebab.apply name) = Style.snake.apply name ∧
      Style.kebab.apply (Style.kebab.apply name) = Style.kebab.apply name ∧
      Style.kebab.apply (Style.snake.apply name) = Style.kebab.apply name := by
  have underscore : '_'.isAlphanum = false := by decide
  have hyphen : '-'.isAlphanum = false := by decide
  simp only [Style.apply, String.toList_ofList]
  refine ⟨⟨smallWords name.toList, ?_, rfl⟩, filter_joinedStyle underscore _, ?_, ?_, ?_, ?_, ?_⟩
  · exact fun word member => isSmallWord_of_mem_smallWords member
  · rw [map_joinedStyle underscore]
  · rw [joinedStyle_joinedStyle underscore]
  · rw [joinedStyle_joinedStyle hyphen]
  · rw [joinedStyle_joinedStyle hyphen]
  · rw [joinedStyle_joinedStyle underscore]

example : Style.snake.apply "parseHTTPHeader2x, A1b" = "parse_http_header2x_a1b" := by decide

end Scaffold.Naming
