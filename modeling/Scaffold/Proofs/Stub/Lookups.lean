import Scaffold.Proofs.FileTree.Children
import Scaffold.Proofs.Text.Encoding
import Scaffold.Proofs.Recipe.Following

/-! Listing stubs and looking them up.

The listing takes the names of files in the directory apart, a lookup puts a file name together from
the name that is asked for. Both mean the same file (`listedName?_eq_some_iff`), so they agree up to
their filters: `lookups_agree` says what each of the three operations answers for which names, and
`listed_usable_iff` which of the listed names can be looked up. -/

set_option autoImplicit false

namespace Scaffold.StubDirectory

open FileTree

variable {directory : StubDirectory} {tree : FileTree} {name : String}

/-! ### Names and file names -/

def fileName (name : String) : Name := Text.encode (name ++ suffix)

theorem fileName_eq (name : String) : fileName name = Text.encode name ++ Text.encode suffix :=
  Text.encode_append name suffix

theorem isStubName_iff :
    isStubName name = true ↔
      ('/' ∉ name.toList ∧ '\\' ∉ name.toList) ∧ name ≠ "." ∧ name ≠ ".." := by
  unfold isStubName
  rw [Bool.and_eq_true, Bool.and_eq_true, bne_iff_ne, bne_iff_ne, and_assoc, Bool.not_eq_true',
    List.any_eq_false]
  apply and_congr_left'
  constructor
  · intro plain
    constructor
    · exact fun member => plain _ member rfl
    · exact fun member => plain _ member rfl
  · rintro ⟨level, straight⟩ c member separates
    rcases Bool.or_eq_true_iff.mp separates with same | same
    · exact level (eq_of_beq same ▸ member)
    · exact straight (eq_of_beq same ▸ member)

theorem isName_fileName (level : '/' ∉ name.toList) : Path.IsName (fileName name) where
  entry := by
    have long : 5 ≤ (fileName name).length := by
      rw [fileName_eq, List.length_append]
      exact Nat.le_add_left _ _
    have longer (segment : List UInt8) (short : segment.length < 5) : fileName name ≠ segment := by
      rintro rfl
      omega
    rw [Component.ofSegment, if_neg (longer _ (by decide)), if_neg (longer _ (by decide)),
      if_neg (longer _ (by decide))]
  plain := by
    rw [fileName_eq, List.mem_append]
    rintro (inside | ending)
    · exact level ((Text.mem_encode_iff (by decide)).mp inside)
    · revert ending
      decide

theorem listedName?_eq_some_iff {file : Name} :
    listedName? file = some name ↔
      file = fileName name ∧ name ≠ "" ∧ name.toList.head? ≠ some '.' := by
  have dot := @Text.head?_encode_iff name '.' (by decide)
  rw [fileName_eq]
  unfold listedName?
  simp only
  constructor
  · intro listed
    split at listed
    next ends =>
        obtain ⟨stem, rfl⟩ := List.isSuffixOf_iff_suffix.mp ends
        rw [List.length_append, Nat.add_sub_cancel, List.take_left] at listed
        split at listed
        next => cases listed
        next shown =>
            have same := Text.decode_eq_some_iff.mp listed
            rw [same] at shown
            refine ⟨congrArg (· ++ _) same, ?_, ?_⟩
            · rintro rfl
              exact shown rfl
            · intro hidden
              rw [dot.mpr hidden] at shown
              exact shown rfl
    next => cases listed
  · rintro ⟨rfl, named, visible⟩
    have ends : (Text.encode suffix).isSuffixOf (Text.encode name ++ Text.encode suffix) = true :=
      List.isSuffixOf_iff_suffix.mpr (List.suffix_append _ _)
    rw [if_pos ends, List.length_append, Nat.add_sub_cancel, List.take_left, if_neg]
    · exact Text.decode_eq_some_iff.mpr rfl
    · intro hidden
      cases first : (Text.encode name).head? with
      | none =>
          rw [List.head?_eq_none_iff] at first
          exact named (Text.encode_injective first)
      | some byte =>
          rw [first, Option.all_some, beq_iff_eq] at hidden
          exact visible (dot.mp (first.trans (congrArg some hidden)))

/-! ### The names that are listed -/

theorem runIn_list (directory : StubDirectory) (world : World) :
    ∃ log, Action.runIn world (directory.list : Action Failure (List String)) =
      (.ok (directory.names world.tree), { world with log := log }) := by
  rw [list, Action.runIn_tree_bind, names]
  cases world.tree.readDirectory directory.root with
  | ok entries => exact ⟨world.log, rfl⟩
  | error fault => exact ⟨_, rfl⟩

theorem mem_listed_iff {entries : List Name} :
    name ∈ directory.listed tree entries ↔
      fileName name ∈ entries ∧ tree.isFile (directory.stubPath name) = true ∧
        name ≠ "" ∧ name.toList.head? ≠ some '.' := by
  unfold listed
  simp only [List.mem_mergeSort, List.mem_filterMap, List.mem_filter, listedName?_eq_some_iff]
  constructor
  · rintro ⟨file, ⟨member, present⟩, rfl, named, visible⟩
    exact ⟨member, present, named, visible⟩
  · rintro ⟨member, present, named, visible⟩
    exact ⟨_, ⟨member, present⟩, rfl, named, visible⟩

theorem mem_names_iff (wellNamed : tree.WellNamed) (rooted : directory.root.isEmpty = false) :
    name ∈ directory.names tree ↔
      '/' ∉ name.toList ∧ tree.isFile (directory.stubPath name) = true ∧
        name ≠ "" ∧ name.toList.head? ≠ some '.' := by
  unfold names
  constructor
  · intro listed
    cases reads : tree.readDirectory directory.root with
    | error fault =>
        rw [reads] at listed
        cases listed
    | ok entries =>
        rw [reads] at listed
        obtain ⟨member, present⟩ := mem_listed_iff.mp listed
        obtain ⟨location, -, -, rfl⟩ := readDirectory_eq_ok_iff.mp reads
        refine ⟨?_, present⟩
        intro inside
        have plain := (wellNamed location _ member).plain
        rw [fileName_eq, List.mem_append, not_or] at plain
        exact plain.1 ((Text.mem_encode_iff (by decide)).mpr inside)
  · rintro ⟨level, present, shown⟩
    obtain ⟨location, content, found⟩ := isFile_iff.mp present
    obtain ⟨inside, mode, reached, member⟩ := find?_of_join (isName_fileName level) rooted found
    rw [readDirectory_eq_ok_iff.mpr ⟨inside, mode, reached, rfl⟩]
    exact mem_listed_iff.mpr ⟨member, present, shown⟩

/-- Names are put in order by their bytes, and only a name itself stands where it stands. -/
theorem isOrdered_iff {left right : String} :
    ((Text.encode left).lex (Text.encode right) || left == right) = true ↔
      Text.encode left ≤ Text.encode right := by
  rw [List.le_iff_lt_or_eq, Bool.or_eq_true, List.lex_eq_true_iff_lt, beq_iff_eq]
  exact or_congr_right ⟨congrArg Text.encode, Text.encode_injective⟩

theorem pairwise_listed (tree : FileTree) {entries : List Name} (distinct : entries.Nodup) :
    (directory.listed tree entries).Pairwise fun left right =>
      Text.encode left < Text.encode right := by
  have once : (directory.listed tree entries).Nodup := by
    refine List.nodup_mergeSort.mpr ((distinct.filter _).filterMap ?_)
    intro left right name first second
    rw [(listedName?_eq_some_iff.mp first).1, (listedName?_eq_some_iff.mp second).1]
  have sorted : (directory.listed tree entries).Pairwise fun left right =>
      Text.encode left ≤ Text.encode right := by
    refine (List.pairwise_mergeSort ?_ ?_ _).imp isOrdered_iff.mp
    · intro first second third before after
      exact isOrdered_iff.mpr (List.le_trans (isOrdered_iff.mp before) (isOrdered_iff.mp after))
    · intro first second
      rw [Bool.or_eq_true, isOrdered_iff, isOrdered_iff]
      exact List.le_total _ _
  refine (List.pairwise_and_iff.mpr ⟨sorted, once⟩).imp ?_
  rintro left right ⟨ordered, apart⟩
  exact (List.le_iff_lt_or_eq.mp ordered).resolve_right fun same =>
    apart (Text.encode_injective same)

theorem pairwise_names (directory : StubDirectory) (tree : FileTree) :
    (directory.names tree).Pairwise fun left right => Text.encode left < Text.encode right := by
  unfold names
  cases reads : tree.readDirectory directory.root with
  | error fault => exact List.Pairwise.nil
  | ok entries =>
      obtain ⟨location, -, -, rfl⟩ := readDirectory_eq_ok_iff.mp reads
      exact pairwise_listed tree (nodup_childNames tree location)

/-! ### Looking one name up -/

/-- What asking for one name can come to: its stub is there, a directory is in the way, or nothing
is known under the name. -/
inductive Lookup (directory : StubDirectory) (tree : FileTree) (name : String) : Prop
  | present : directory.holds tree name = true →
      tree.isDirectory (directory.stubPath name) = false →
      ((∃ text, directory.text? tree name = .ok text) ∨
        directory.text? tree name = .error (.stubUnreadable name .notText)) →
      Lookup directory tree name
  | inTheWay : directory.holds tree name = false → isStubName name = true →
      tree.isDirectory (directory.stubPath name) = true →
      directory.text? tree name = .error (.stubUnreadable name .isADirectory) →
      Lookup directory tree name
  | unknown : directory.holds tree name = false →
      (isStubName name && tree.isDirectory (directory.stubPath name)) = false →
      directory.text? tree name = .error (.stubNotFound name) → Lookup directory tree name

theorem text?_eq (directory : StubDirectory) (tree : FileTree) (name : String) :
    directory.text? tree name =
      if isStubName name && tree.exists? (directory.stubPath name) then
        (tree.readText (directory.stubPath name)).mapError (.stubUnreadable name)
      else .error (.stubNotFound name) := by
  unfold text?
  cases isStubName name with
  | false => rfl
  | true =>
      cases tree.exists? (directory.stubPath name) with
      | false => rfl
      | true =>
          simp only [Bool.not_true, Bool.or_self, Bool.false_eq_true, if_false, Bool.and_self,
            if_true]
          cases tree.readText (directory.stubPath name) with
          | ok text => rfl
          | error fault => rfl

theorem result_read (directory : StubDirectory) (world : World) (name : String) :
    (Action.runIn world (directory.read name)).1 = directory.text? world.tree name := by
  obtain ⟨_, read⟩ := directory.runIn_read name world
  rw [read]

theorem lookup_cases (directory : StubDirectory) (tree : FileTree) (name : String) :
    directory.Lookup tree name := by
  have looked := text?_eq directory tree name
  cases accepted : isStubName name with
  | false =>
      rw [accepted] at looked
      exact .unknown (by rw [holds, accepted]; rfl) (by rw [accepted]; rfl) looked
  | true =>
      rw [accepted, Bool.true_and, exists?, readText, readBytes] at looked
      have isHeld : directory.holds tree name = tree.isFile (directory.stubPath name) := by
        rw [holds, accepted, Bool.true_and]
      rw [isFile] at isHeld
      cases found : tree.find? (directory.stubPath name) with
      | error fault =>
          rw [found] at looked isHeld
          exact .unknown isHeld (by rw [accepted, isDirectory, found]; rfl) looked
      | ok pair =>
          obtain ⟨location, entry⟩ := pair
          rw [found] at looked isHeld
          cases entry with
          | link target => exact absurd found find?_ne_link
          | directory mode => exact .inTheWay isHeld accepted (by rw [isDirectory, found]) looked
          | file content =>
              refine .present isHeld (by rw [isDirectory, found]) ?_
              rw [looked]
              simp only [bind, Except.bind, pure, Except.pure, Except.isOk, Except.toBool, if_true]
              cases String.fromUTF8? content with
              | some text => exact Or.inl ⟨text, rfl⟩
              | none => exact Or.inr rfl

/-! ### The three lookups -/

/-- How listing, existence and loading go together. -/
structure LookupsAgree (directory : StubDirectory) (world : World) (listed : List String) :
    Prop where
  increasing : listed.Pairwise fun left right => Text.encode left < Text.encode right
  listed_iff : ∀ name, name ≠ "" → name.toList.head? ≠ some '.' → '\\' ∉ name.toList →
    (name ∈ listed ↔ directory.holds world.tree name = true)
  holds_iff : ∀ name, directory.holds world.tree name = true ↔
    (∃ text, (Action.runIn world (directory.read name)).1 = .ok text) ∨
      (Action.runIn world (directory.read name)).1 = .error (.stubUnreadable name .notText)
  directory_iff : ∀ name,
    (Action.runIn world (directory.read name)).1 = .error (.stubUnreadable name .isADirectory) ↔
      isStubName name = true ∧ world.tree.isDirectory (directory.stubPath name) = true
  unknown : ∀ name, directory.holds world.tree name = false →
    ¬ (isStubName name = true ∧ world.tree.isDirectory (directory.stubPath name) = true) →
      (Action.runIn world (directory.read name)).1 = .error (.stubNotFound name)

theorem holds_iff_isFile : directory.holds tree name = true ↔
    isStubName name = true ∧ tree.isFile (directory.stubPath name) = true :=
  Bool.and_eq_true_iff

theorem ne_of_visible (visible : name.toList.head? ≠ some '.') : name ≠ "." ∧ name ≠ ".." := by
  constructor
  · rintro rfl
    exact visible rfl
  · rintro rfl
    exact visible rfl

/-- Listing, existence and loading agree on every name that is not hidden and holds no backslash;
existence and loading agree on every name at all. -/
theorem lookups_agree (directory : StubDirectory) (world : World)
    (wellNamed : world.tree.WellNamed) (rooted : directory.root.isEmpty = false) :
    ∃ listed log,
      Action.runIn world (directory.list : Action Failure (List String)) =
          (.ok listed, { world with log := log }) ∧
        directory.LookupsAgree world listed := by
  obtain ⟨log, ran⟩ := directory.runIn_list world
  refine ⟨_, log, ran, directory.pairwise_names world.tree, ?_, ?_, ?_, ?_⟩
  · intro name named visible straight
    rw [mem_names_iff wellNamed rooted, holds_iff_isFile, isStubName_iff]
    constructor
    · rintro ⟨level, present, -, -⟩
      exact ⟨⟨⟨level, straight⟩, ne_of_visible visible⟩, present⟩
    · rintro ⟨⟨⟨level, -⟩, -⟩, present⟩
      exact ⟨level, present, named, visible⟩
  · intro name
    rw [result_read]
    cases directory.lookup_cases world.tree name with
    | present held _ text => exact iff_of_true held text
    | inTheWay free _ _ text => simp [free, text]
    | unknown free _ text => simp [free, text]
  · intro name
    rw [result_read]
    cases directory.lookup_cases world.tree name with
    | present _ apart text =>
        rcases text with ⟨text, reads⟩ | refused
        · simp [apart, reads]
        · simp [apart, refused]
    | inTheWay _ accepted inside text => exact iff_of_true text ⟨accepted, inside⟩
    | unknown _ apart text => simp [text, ← Bool.and_eq_true, apart]
  · intro name free apart
    rw [result_read]
    cases directory.lookup_cases world.tree name with
    | present held _ _ => exact absurd (held.symm.trans free) nofun
    | inTheWay _ accepted inside _ => exact absurd ⟨accepted, inside⟩ apart
    | unknown _ _ text => exact text

/-- A directory `s` of stubs with a file, a link to it, a link to nothing and a directory under names
of stubs, and with names that are hidden, hold a backslash or hold no text. -/
def stubWorld : World :=
  let root : Location := [Text.encode "s", Text.encode "w"]
  World.ofTree ((((((((FileTree.fresh.place root (.directory 0o755)).place
    (fileName "b.c" :: root) (.file "text".toUTF8)).place
    (fileName "a" :: root) (.link (Path.ofString "b.c.stub"))).place
    (fileName "gone" :: root) (.link (Path.ofString "nowhere"))).place
    (fileName "d" :: root) (.directory 0o755)).place
    (fileName ".h" :: root) (.file "text".toUTF8)).place
    (fileName "x\\y" :: root) (.file "text".toUTF8)).place
    (fileName "raw" :: root) (.file ⟨#[0xFF]⟩))

theorem mem_names_stubWorld :
    "a" ∈ (⟨Path.ofString "s"⟩ : StubDirectory).names stubWorld.tree ∧
      "x\\y" ∈ (⟨Path.ofString "s"⟩ : StubDirectory).names stubWorld.tree := by
  rw [mem_names_iff (by decide +kernel) (by decide), mem_names_iff (by decide +kernel) (by decide)]
  decide +kernel

theorem lookups_agree_stubWorld :
    stubWorld.tree.WellNamed ∧ (Path.ofString "s").isEmpty = false ∧
      ∃ listed log,
        Action.runIn stubWorld (list ⟨Path.ofString "s"⟩ : Action Failure (List String)) =
            (.ok listed, { stubWorld with log := log }) ∧
          LookupsAgree ⟨Path.ofString "s"⟩ stubWorld listed := by
  have wellNamed : stubWorld.tree.WellNamed := by decide +kernel
  have rooted : (Path.ofString "s").isEmpty = false := by decide
  exact ⟨wellNamed, rooted, lookups_agree ⟨Path.ofString "s"⟩ stubWorld wellNamed rooted⟩

/-! ### Listed names that cannot be looked up -/

/-- A listed name is there for a lookup exactly if it holds no backslash. -/
theorem listed_usable_iff (directory : StubDirectory) (world : World)
    (wellNamed : world.tree.WellNamed) (rooted : directory.root.isEmpty = false) :
    ∃ listed log,
      Action.runIn world (directory.list : Action Failure (List String)) =
          (.ok listed, { world with log := log }) ∧
        ∀ name ∈ listed,
          (directory.holds world.tree name = true ↔ '\\' ∉ name.toList) ∧
            ((Action.runIn world (directory.read name)).1 ≠ .error (.stubNotFound name) ↔
              '\\' ∉ name.toList) := by
  obtain ⟨log, ran⟩ := directory.runIn_list world
  refine ⟨_, log, ran, ?_⟩
  intro name listed
  obtain ⟨level, present, -, visible⟩ := (mem_names_iff wellNamed rooted).mp listed
  have held : directory.holds world.tree name = true ↔ '\\' ∉ name.toList := by
    rw [holds_iff_isFile, isStubName_iff]
    constructor
    · rintro ⟨⟨⟨-, straight⟩, -⟩, -⟩
      exact straight
    · intro straight
      exact ⟨⟨⟨level, straight⟩, ne_of_visible visible⟩, present⟩
  refine ⟨held, ?_⟩
  rw [result_read, ← held]
  cases directory.lookup_cases world.tree name with
  | present holds _ text =>
      apply iff_of_true _ holds
      rcases text with ⟨text, reads⟩ | refused
      · simp [reads]
      · simp [refused]
  | inTheWay _ _ inside _ =>
      -- What is listed is a file, so no directory is in its way.
      obtain ⟨location, content, file⟩ := isFile_iff.mp present
      obtain ⟨place, mode, other⟩ := isDirectory_iff.mp inside
      cases file.symm.trans other
  | unknown free _ text => simp [free, text]

theorem listed_usable_iff_stubWorld :
    stubWorld.tree.WellNamed ∧ (Path.ofString "s").isEmpty = false ∧
      holds ⟨Path.ofString "s"⟩ stubWorld.tree "a" = true ∧
      holds ⟨Path.ofString "s"⟩ stubWorld.tree "x\\y" = false := by
  have wellNamed : stubWorld.tree.WellNamed := by decide +kernel
  have rooted : (Path.ofString "s").isEmpty = false := by decide
  obtain ⟨listed, log, ran, usable⟩ :=
    listed_usable_iff ⟨Path.ofString "s"⟩ stubWorld wellNamed rooted
  obtain ⟨_, named⟩ := runIn_list ⟨Path.ofString "s"⟩ stubWorld
  rw [named] at ran
  cases ran
  refine ⟨wellNamed, rooted, ?_, ?_⟩
  · exact (usable "a" mem_names_stubWorld.1).1.mpr (by decide)
  · exact eq_false_of_ne_true ((usable "x\\y" mem_names_stubWorld.2).1.not.mpr (by decide))

/-- A name can be listed that nothing is known under. -/
theorem not_every_listed_name_is_usable :
    ¬ ∀ (directory : StubDirectory) (world : World), world.tree.WellNamed →
      directory.root.isEmpty = false → ∀ listed,
        (Action.runIn world (directory.list : Action Failure (List String))).1 = .ok listed →
          ∀ name ∈ listed, directory.holds world.tree name = true ∧
            (Action.runIn world (directory.read name)).1 ≠ .error (.stubNotFound name) := by
  intro usable
  obtain ⟨_, named⟩ := runIn_list ⟨Path.ofString "s"⟩ stubWorld
  have held := usable ⟨Path.ofString "s"⟩ stubWorld (by decide +kernel) (by decide) _
    (congrArg Prod.fst named) "x\\y" mem_names_stubWorld.2
  revert held
  decide +kernel

end Scaffold.StubDirectory
