import Scaffold.Proofs.Naming.Capitals
import Scaffold.Proofs.Naming.Words

/-! Words found again in a name without separators.

The class style drops the separators of a name and leaves one run of letters and digits. A word
ends in that run where a capital follows and the letter read last was a small one; digits in between
do not matter. So the words of a name are found again if each begins with a letter and each but the
last has another letter after that: `snake_of_class_and_variable`. -/

set_option autoImplicit false

namespace Scaffold.Naming

variable {before : LetterCase} {c next : Char} {first word text more : List Char}
variable {found : List (List Char)} {later : List (Char × List Char)}

/-! ### Names made of words -/

/-- Words written one after another, each but the first behind a separator of its own. -/
def separated (first : List Char) (later : List (Char × List Char)) : List Char :=
  first ++ later.flatMap fun (separator, word) => separator :: word

/-- A word of small letters and digits that begins with a letter. -/
structure BeginsWithLetter (word : List Char) : Prop where
  small : IsSmallWord word
  letter : ∀ c ∈ word.head?, c.isLower = true

def HasFurtherLetter (word : List Char) : Prop := ∃ c ∈ word.tail, c.isLower = true

instance (word : List Char) : Decidable (BeginsWithLetter word) :=
  decidable_of_iff (word ≠ [] ∧ word.all isSmall = true ∧ word.head?.all Char.isLower = true) <| by
    rw [List.all_eq_true, Option.all_eq_true]
    exact ⟨fun ⟨present, small, letter⟩ => ⟨⟨present, small⟩, letter⟩,
      fun begins => ⟨begins.small.1, begins.small.2, begins.letter⟩⟩

instance (word : List Char) : Decidable (HasFurtherLetter word) :=
  decidable_of_iff (word.tail.any Char.isLower = true) List.any_eq_true

def capitalized : List Char → List Char
  | [] => []
  | c :: rest => c.toUpper :: rest

theorem separated_cons (first : List Char) (pair : Char × List Char)
    (later : List (Char × List Char)) :
    separated first (pair :: later) = first ++ pair.1 :: separated pair.2 later := by
  rw [separated, List.flatMap_cons, List.cons_append]
  rfl

theorem words_separated (apart : ∀ pair ∈ later, isNameSeparator pair.1 = true)
    (small : ∀ word ∈ first :: later.map Prod.snd, IsSmallWord word) :
    words (separated first later) = first :: later.map Prod.snd := by
  induction later generalizing first with
  | nil =>
      rw [separated, List.flatMap_nil, List.append_nil]
      exact words_of_isSmallWord (small first List.mem_cons_self)
  | cons pair later ih =>
      have separator := wordless_isNameSeparator _ (apart pair List.mem_cons_self)
      have others : words (separated pair.2 later) = pair.2 :: later.map Prod.snd :=
        ih (fun other member => apart other (List.mem_cons_of_mem pair member))
          fun word member => small word (List.mem_cons_of_mem first member)
      rw [separated_cons, words_append_separator separator,
        words_of_isSmallWord (small first List.mem_cons_self), others]
      rfl

theorem smallWords_separated (apart : ∀ pair ∈ later, isNameSeparator pair.1 = true)
    (small : ∀ word ∈ first :: later.map Prod.snd, IsSmallWord word) :
    smallWords (separated first later) = first :: later.map Prod.snd := by
  have lowered : (first :: later.map Prod.snd).map (fun word => word.map Char.toLower) =
      (first :: later.map Prod.snd).map id :=
    List.map_congr_left fun word member => map_toLower_of_isSmallWord (small word member)
  rw [smallWords, words_separated apart small, lowered, List.map_id]

/-! ### The class style of such a name -/

theorem capitalizeWords_of_isSmall (small : ∀ c ∈ text, isSmall c = true) :
    capitalizeWords isNameSeparator isNameBreak false text = text := by
  induction text with
  | nil => rfl
  | cons c text ih =>
      have known := isAlphanum_of_isSmall (small c List.mem_cons_self)
      rw [capitalizeWords, wordless_isNameSeparator.eq_false known,
        wordless_isNameBreak.eq_false known,
        ih fun other member => small other (List.mem_cons_of_mem c member)]
      rfl

theorem classStyle_of_isSmallWord (small : IsSmallWord word) :
    classStyle word = capitalized word := by
  cases word with
  | nil => rfl
  | cons c rest =>
      have known := isAlphanum_of_isSmall (small.2 c List.mem_cons_self)
      rw [classStyle, capitalizeWords, wordless_isNameSeparator.eq_false known,
        wordless_isNameBreak.eq_false known, capitalizeWords_of_isSmall fun other member =>
          small.2 other (List.mem_cons_of_mem c member)]
      rfl

theorem classStyle_separated (apart : ∀ pair ∈ later, isNameSeparator pair.1 = true)
    (small : ∀ word ∈ first :: later.map Prod.snd, IsSmallWord word) :
    classStyle (separated first later) =
      capitalized first ++ (later.map Prod.snd).flatMap capitalized := by
  induction later generalizing first with
  | nil =>
      rw [separated, List.flatMap_nil, List.append_nil,
        classStyle_of_isSmallWord (small first List.mem_cons_self), List.map_nil, List.flatMap_nil,
        List.append_nil]
  | cons pair later ih =>
      have others := ih (fun other member => apart other (List.mem_cons_of_mem pair member))
        fun word member => small word (List.mem_cons_of_mem first member)
      rw [separated_cons, classStyle_append_separator (apart pair List.mem_cons_self), others,
        classStyle_of_isSmallWord (small first List.mem_cons_self), List.map_cons,
        List.flatMap_cons]

/-! ### Where words end -/

def LetterCase.afterAll (before : LetterCase) (text : List Char) : LetterCase :=
  text.foldl LetterCase.after before

/-- Digits carry the case of the letter before them, so one small letter is remembered to the end of
a text without capitals. -/
theorem afterAll_of_isSmall (small : ∀ c ∈ text, isSmall c = true)
    (letter : before = .lower ∨ ∃ c ∈ text, c.isLower = true) : before.afterAll text = .lower := by
  induction text generalizing before with
  | nil =>
      rcases letter with lower | ⟨c, member, -⟩
      · exact lower
      · cases member
  | cons c text ih =>
      apply ih fun other member => small other (List.mem_cons_of_mem c member)
      have plain : c.isUpper = false := isUpper_of_isSmall (small c List.mem_cons_self)
      rw [LetterCase.after, plain]
      cases lower : c.isLower with
      | true => exact .inl rfl
      | false =>
          rcases letter with kept | ⟨other, member, further⟩
          · exact .inl kept
          · rcases List.mem_cons.mp member with rfl | inside
            · rw [lower] at further
              cases further
            · exact .inr ⟨other, inside, further⟩

/-- The word under way goes on where no capital follows, unless it goes on from one capital to the
next. -/
theorem humps_cons_of_not_isUpper (goes : next.isUpper = false)
    (stays : before ≠ .upper ∨ c.isUpper = false) :
    humps before (c :: next :: more) =
      prependToFirst c (humps (before.after c) (next :: more)) := by
  rw [humps, goes, if_neg, if_neg]
  · rintro ⟨upper, capital, -⟩
    rcases stays with other | plain
    · exact other upper
    · rw [plain] at capital
      cases capital
  · rintro ⟨-, capital⟩
    cases capital

/-- A text without capitals that ends in lower case is the rest of the word under way, if a capital
follows. -/
theorem humps_append (present : text ≠ []) (small : ∀ c ∈ text, isSmall c = true)
    (ends : before.afterAll text = .lower) (upper : next.isUpper = true) :
    humps before (text ++ next :: more) = text :: humps .none (next :: more) := by
  induction text generalizing before with
  | nil => exact absurd rfl present
  | cons c text ih =>
      cases text with
      | nil => rw [List.singleton_append, humps, if_pos ⟨ends, upper⟩]
      | cons other text =>
          have plain (d : Char) (member : d ∈ c :: other :: text) : d.isUpper = false :=
            isUpper_of_isSmall (small d member)
          have rest := ih (List.cons_ne_nil _ _)
            (fun d member => small d (List.mem_cons_of_mem c member)) ends
          have goes := plain other (List.mem_cons_of_mem c List.mem_cons_self)
          rw [List.cons_append, List.cons_append,
            humps_cons_of_not_isUpper goes (.inr (plain c List.mem_cons_self)),
            ← List.cons_append, rest]
          rfl

/-- A word under way ends where a capital follows, if it has a small letter after its first
character, whatever the case of that one is. -/
theorem humps_word_append (small : ∀ c ∈ word.tail, isSmall c = true)
    (further : HasFurtherLetter word) (upper : next.isUpper = true) :
    humps .none (word ++ next :: more) = word :: humps .none (next :: more) := by
  obtain ⟨letter, member, lower⟩ := further
  cases word with
  | nil => cases member
  | cons c rest =>
      have rests : humps (LetterCase.none.after c) (rest ++ next :: more) =
          rest :: humps .none (next :: more) :=
        humps_append (List.ne_nil_of_mem member) small
          (afterAll_of_isSmall small (.inr ⟨letter, member, lower⟩)) upper
      cases rest with
      | nil => cases member
      | cons d rest =>
          have goes : d.isUpper = false := isUpper_of_isSmall (small d List.mem_cons_self)
          rw [List.cons_append, List.cons_append, humps_cons_of_not_isUpper goes (.inl (by decide)),
            ← List.cons_append, rests]
          rfl

theorem humps_word (present : word ≠ []) (small : ∀ c ∈ word.tail, isSmall c = true) :
    humps .none word = [word] := by
  cases word with
  | nil => exact absurd rfl present
  | cons c rest =>
      cases rest with
      | nil => rfl
      | cons d rest =>
          have plain (other : Char) (member : other ∈ d :: rest) : other.isUpper = false :=
            isUpper_of_isSmall (small other member)
          rw [humps_cons_of_not_isUpper (plain d List.mem_cons_self) (.inl (by decide)),
            humps_of_not_isUpper (List.cons_ne_nil d rest) plain]
          rfl

theorem tail_capitalized (word : List Char) : (capitalized word).tail = word.tail := by
  cases word with
  | nil => rfl
  | cons c rest => rfl

theorem BeginsWithLetter.exists_upper (begins : BeginsWithLetter word) :
    ∃ c, c.isUpper = true ∧ capitalized word = c :: word.tail := by
  cases word with
  | nil => exact absurd rfl begins.small.1
  | cons c rest =>
      refine ⟨c.toUpper, ?_, rfl⟩
      rw [Char.isUpper_toUpper_eq_isAlpha, Char.isAlpha, begins.letter c rfl, Bool.or_true]

theorem BeginsWithLetter.tail (begins : BeginsWithLetter word) :
    ∀ c ∈ word.tail, isSmall c = true :=
  fun c member => begins.small.2 c (List.mem_of_mem_tail member)

theorem further_of_tail_eq {front : List Char} (same : front.tail = word.tail)
    (further : ∀ other ∈ (word :: found).dropLast, HasFurtherLetter other) :
    ∀ other ∈ (front :: found).dropLast, HasFurtherLetter other := by
  cases found with
  | nil => exact nofun
  | cons next found =>
      intro other member
      rcases List.mem_cons.mp member with rfl | inside
      · rw [HasFurtherLetter, same]
        exact further word List.mem_cons_self
      · exact further other (List.mem_cons_of_mem word inside)

theorem humps_flatMap_capitalized (present : word ≠ []) (small : ∀ c ∈ word.tail, isSmall c = true)
    (begins : ∀ next ∈ found, BeginsWithLetter next)
    (further : ∀ other ∈ (word :: found).dropLast, HasFurtherLetter other) :
    humps .none (word ++ found.flatMap capitalized) = word :: found.map capitalized := by
  induction found generalizing word with
  | nil =>
      rw [List.flatMap_nil, List.append_nil, humps_word present small, List.map_nil]
  | cons next found ih =>
      have letter := begins next List.mem_cons_self
      obtain ⟨c, upper, shape⟩ := letter.exists_upper
      have others : humps .none (capitalized next ++ found.flatMap capitalized) =
          capitalized next :: found.map capitalized := by
        apply ih
        · rw [shape]
          exact List.cons_ne_nil _ _
        · rw [tail_capitalized]
          exact letter.tail
        · exact fun other member => begins other (List.mem_cons_of_mem next member)
        · apply further_of_tail_eq (tail_capitalized next)
          exact fun other member => further other (List.mem_cons_of_mem word member)
      rw [List.flatMap_cons, List.map_cons, ← others, shape, List.cons_append]
      exact humps_word_append small (further word List.mem_cons_self) upper

/-! ### The words found again -/

theorem isAlphanum_toUpper (known : c.isAlphanum = true) : c.toUpper.isAlphanum = true := by
  cases letter : c.isAlpha with
  | true => rw [Char.isAlphanum, Char.isAlpha_toUpper_eq_isAlpha, letter, Bool.true_or]
  | false => rw [toUpper_of_not_isAlpha letter, known]

theorem isAlphanum_of_mem_capitalized (small : IsSmallWord word) (member : c ∈ capitalized word) :
    c.isAlphanum = true := by
  cases word with
  | nil => cases member
  | cons d rest =>
      rcases List.mem_cons.mp member with rfl | inside
      · exact isAlphanum_toUpper (isAlphanum_of_isSmall (small.2 d List.mem_cons_self))
      · exact isAlphanum_of_isSmall (small.2 c (List.mem_cons_of_mem d inside))

theorem map_toLower_capitalized (small : IsSmallWord word) :
    (capitalized word).map Char.toLower = word := by
  have lowered := map_toLower_of_isSmallWord small
  cases word with
  | nil => rfl
  | cons c rest => rwa [capitalized, List.map_cons, Char.toLower_toUpper_eq_toLower]

/-- In lower case, with or without the capital in front, the words are those that were written. -/
theorem smallWords_flatMap_capitalized {front : List Char} (begins : BeginsWithLetter first)
    (others : ∀ word ∈ found, BeginsWithLetter word)
    (further : ∀ word ∈ (first :: found).dropLast, HasFurtherLetter word)
    (shown : front = first ∨ front = capitalized first) :
    smallWords (front ++ found.flatMap capitalized) = first :: found := by
  have tail : front.tail = first.tail := by
    rcases shown with rfl | rfl
    · rfl
    · exact tail_capitalized first
  have lowered : front.map Char.toLower = first := by
    rcases shown with rfl | rfl
    · exact map_toLower_of_isSmallWord begins.small
    · exact map_toLower_capitalized begins.small
  have known : ∀ c ∈ front ++ found.flatMap capitalized, c.isAlphanum = true := by
    intro c member
    rcases List.mem_append.mp member with inside | behind
    · rcases shown with rfl | rfl
      · exact isAlphanum_of_isSmall (begins.small.2 c inside)
      · exact isAlphanum_of_mem_capitalized begins.small inside
    · obtain ⟨word, listed, within⟩ := List.mem_flatMap.mp behind
      exact isAlphanum_of_mem_capitalized (others word listed).small within
  have present : front ≠ [] := by
    rintro rfl
    exact begins.small.1 lowered.symm
  have divided := humps_flatMap_capitalized present (tail ▸ begins.tail) others
    (further_of_tail_eq tail further)
  have kept : (found.map capitalized).map (fun word => word.map Char.toLower) = found.map id := by
    rw [List.map_map]
    exact List.map_congr_left fun word member => map_toLower_capitalized (others word member).small
  rw [smallWords, words, runs_of_isAlphanum known, List.flatMap_singleton, divided, List.map_cons,
    lowered, kept, List.map_id]

theorem lowerFirst_capitalized (begins : BeginsWithLetter first) (more : List Char) :
    lowerFirst (capitalized first ++ more) = first ++ more := by
  cases first with
  | nil => exact absurd rfl begins.small.1
  | cons c rest =>
      rw [capitalized, List.cons_append, lowerFirst, Char.toLower_toUpper_eq_toLower,
        toLower_of_isSmall (begins.small.2 c List.mem_cons_self)]
      rfl

/-- Words of small letters and digits, written with separators between them, are found again in the
class and the variable style of the name, if each begins with a letter and each but the last has a
further one. -/
theorem snake_of_class_and_variable (first : List Char) (later : List (Char × List Char))
    (separators : ∀ pair ∈ later, pair.1 ∈ nameSeparators)
    (begins : ∀ word ∈ first :: later.map Prod.snd, BeginsWithLetter word)
    (further : ∀ word ∈ (first :: later.map Prod.snd).dropLast, HasFurtherLetter word) :
    let name := String.ofList (separated first later)
    let joined := String.ofList (['_'].intercalate (first :: later.map Prod.snd))
    Style.snake.apply (Style.classLike.apply name) = joined ∧
      Style.snake.apply (Style.variableLike.apply name) = joined ∧
      Style.snake.apply name = joined := by
  have apart : ∀ pair ∈ later, isNameSeparator pair.1 = true := by
    intro pair member
    rw [isNameSeparator_eq, decide_eq_true_eq]
    exact separators pair member
  have small : ∀ word ∈ first :: later.map Prod.snd, IsSmallWord word :=
    fun word member => (begins word member).small
  have front := begins first List.mem_cons_self
  have others : ∀ word ∈ later.map Prod.snd, BeginsWithLetter word :=
    fun word member => begins word (List.mem_cons_of_mem first member)
  simp only [Style.apply, String.toList_ofList, variableStyle, classStyle_separated apart small,
    lowerFirst_capitalized front, joinedStyle_eq, smallWords_separated apart small,
    smallWords_flatMap_capitalized front others further (.inl rfl),
    smallWords_flatMap_capitalized front others further (.inr rfl), and_self]

/-- Digits inside and at the end of words, and a last word of one letter. -/
def digitWords : List (Char × List Char) :=
  [('-', "ab12".toList), (' ', "x9y3".toList), ('_', "z".toList)]

theorem snake_of_class_and_variable_digitWords :
    (∀ pair ∈ digitWords, pair.1 ∈ nameSeparators) ∧
      (∀ word ∈ "h2o".toList :: digitWords.map Prod.snd, BeginsWithLetter word) ∧
      (∀ word ∈ ("h2o".toList :: digitWords.map Prod.snd).dropLast, HasFurtherLetter word) ∧
      String.ofList (separated "h2o".toList digitWords) = "h2o-ab12 x9y3_z" ∧
      Style.classLike.apply "h2o-ab12 x9y3_z" = "H2oAb12X9y3Z" ∧
      Style.snake.apply "H2oAb12X9y3Z" = "h2o_ab12_x9y3_z" := by
  have separators : ∀ pair ∈ digitWords, pair.1 ∈ nameSeparators := by decide
  have begins : ∀ word ∈ "h2o".toList :: digitWords.map Prod.snd, BeginsWithLetter word := by decide
  have further : ∀ word ∈ ("h2o".toList :: digitWords.map Prod.snd).dropLast,
      HasFurtherLetter word := by
    decide
  have written : String.ofList (separated "h2o".toList digitWords) = "h2o-ab12 x9y3_z" := by decide
  have classed : Style.classLike.apply "h2o-ab12 x9y3_z" = "H2oAb12X9y3Z" := by decide
  obtain ⟨found, -, -⟩ :=
    snake_of_class_and_variable "h2o".toList digitWords separators begins further
  rw [written, classed] at found
  exact ⟨separators, begins, further, written, classed, found.trans (by decide)⟩

end Scaffold.Naming
