import Mathlib.Data.List.TakeWhile
import Scaffold.Path

/-! The steps of a path.

Segments that are empty or `.` ask for nothing; the steps of a path are its other components. Main
statements: a path has the steps of its parent and one more (`steps_of_parent?`), joining a name
adds that name as the last step (`components_join`), and the parent is written as a beginning of the
path (`parent?_bytes_begin`). -/

set_option autoImplicit false

namespace Scaffold

def Component.moves : Component → Bool
  | .blank => false
  | .here => false
  | _ => true

namespace Path

def steps (path : Path) : List Component := path.components.filter Component.moves

/-! ### Segments and bytes -/

theorem splitSegments_ne_nil (bytes : List UInt8) : splitSegments bytes ≠ [] := by
  cases bytes with
  | nil => simp [splitSegments]
  | cons byte rest =>
      rw [splitSegments]
      split
      · simp
      · split <;> simp

theorem splitSegments_append (front back : List UInt8) :
    splitSegments (front ++ slash :: back) = splitSegments front ++ splitSegments back := by
  induction front with
  | nil => simp [splitSegments]
  | cons byte rest ih =>
      by_cases separates : byte = slash
      · simp [splitSegments, separates, ih]
      · simp only [List.cons_append, splitSegments, if_neg separates, ih]
        cases inner : splitSegments rest with
        | nil => exact absurd inner (splitSegments_ne_nil rest)
        | cons segment segments => rfl

theorem splitSegments_of_no_slash {name : List UInt8} (plain : slash ∉ name) :
    splitSegments name = [name] := by
  induction name with
  | nil => rfl
  | cons byte rest ih =>
      have inner : slash ∉ rest := fun member => plain (List.mem_cons_of_mem byte member)
      have apart : byte ≠ slash := fun same => plain (same ▸ List.mem_cons_self)
      rw [splitSegments, if_neg apart, ih inner]

theorem slash_not_mem_segment {bytes segment : List UInt8}
    (member : segment ∈ splitSegments bytes) : slash ∉ segment := by
  induction bytes generalizing segment with
  | nil =>
      simp only [splitSegments, List.mem_singleton] at member
      rw [member]
      exact List.not_mem_nil
  | cons byte rest ih =>
      rw [splitSegments] at member
      split at member
      · rcases List.mem_cons.mp member with rfl | later
        · exact List.not_mem_nil
        · exact ih later
      next apart =>
          cases inner : splitSegments rest with
          | nil => exact absurd inner (splitSegments_ne_nil rest)
          | cons first further =>
              rw [inner] at member ih
              rcases List.mem_cons.mp member with rfl | later
              · intro inside
                rcases List.mem_cons.mp inside with same | deeper
                · exact apart same.symm
                · exact ih List.mem_cons_self deeper
              · exact ih (List.mem_cons_of_mem first later)

def joined : List Name → List UInt8
  | [] => []
  | first :: further => (ofSegments first further).bytes

theorem foldl_segments (front bytes : List UInt8) (further : List Name) :
    further.foldl (fun bytes segment => bytes ++ slash :: segment) (front ++ bytes) =
      front ++ further.foldl (fun bytes segment => bytes ++ slash :: segment) bytes := by
  induction further generalizing bytes with
  | nil => rfl
  | cons segment further ih => rw [List.foldl_cons, List.foldl_cons, List.append_assoc, ih]

theorem joined_cons_cons (first second : Name) (further : List Name) :
    joined (first :: second :: further) = first ++ slash :: joined (second :: further) := by
  have moved := foldl_segments (first ++ [slash]) second further
  simp only [List.append_assoc, List.singleton_append] at moved
  exact moved

theorem joined_splitSegments (bytes : List UInt8) : joined (splitSegments bytes) = bytes := by
  induction bytes with
  | nil => rfl
  | cons byte rest ih =>
      cases inner : splitSegments rest with
      | nil => exact absurd inner (splitSegments_ne_nil rest)
      | cons segment segments =>
          rw [inner] at ih
          by_cases separates : byte = slash
          · rw [splitSegments, if_pos separates, inner, joined_cons_cons, ih, separates]
            rfl
          · rw [splitSegments, if_neg separates, inner]
            simp only
            cases segments with
            | nil =>
                have whole : segment = rest := ih
                rw [whole]
                rfl
            | cons second further =>
                rw [joined_cons_cons] at ih ⊢
                rw [List.cons_append, ih]

theorem splitSegments_joined {first : Name} {further : List Name}
    (plain : ∀ segment ∈ first :: further, slash ∉ segment) :
    splitSegments (joined (first :: further)) = first :: further := by
  induction further generalizing first with
  | nil => exact splitSegments_of_no_slash (plain first List.mem_cons_self)
  | cons second further ih =>
      have inner := ih fun segment member => plain segment (List.mem_cons_of_mem first member)
      rw [joined_cons_cons, splitSegments_append, inner,
        splitSegments_of_no_slash (plain first List.mem_cons_self)]
      rfl

theorem joined_append_begins (front back : List Name) :
    joined front <+: joined (front ++ back) := by
  cases front with
  | nil => exact List.nil_prefix
  | cons first further =>
      change (ofSegments first further).bytes <+: (ofSegments first (further ++ back)).bytes
      unfold ofSegments
      rw [List.foldl_append]
      have kept := foldl_segments
        (further.foldl (fun bytes segment => bytes ++ slash :: segment) first) [] back
      rw [List.append_nil] at kept
      rw [kept]
      exact List.prefix_append _ _

/-! ### Idle segments -/

theorem moves_ofSegment (segment : Name) :
    (Component.ofSegment segment).moves = !isIdle segment := by
  unfold Component.ofSegment isIdle
  by_cases blank : segment = []
  · simp [blank, Component.moves]
  · by_cases here : segment = currentSegment
    · have other : currentSegment ≠ [] := by decide
      simp [here, other, Component.moves]
    · by_cases up : segment = parentSegment
      · have first : parentSegment ≠ [] := by decide
        have second : parentSegment ≠ currentSegment := by decide
        simp [up, first, second, Component.moves]
      · simp [blank, here, up, Component.moves]

theorem ofSegment_eq_entry {segment name : Name}
    (same : Component.ofSegment segment = .entry name) :
    segment = name ∧ name ≠ [] ∧ name ≠ currentSegment ∧ name ≠ parentSegment := by
  unfold Component.ofSegment at same
  split at same
  · cases same
  next blank =>
      split at same
      · cases same
      next here =>
          split at same
          · cases same
          next up =>
              cases same
              exact ⟨rfl, blank, here, up⟩

def stepsOf (segments : List Name) : List Component :=
  (segments.map Component.ofSegment).filter Component.moves

theorem steps_eq_stepsOf (path : Path) : path.steps = stepsOf path.segments := rfl

theorem stepsOf_append (front back : List Name) :
    stepsOf (front ++ back) = stepsOf front ++ stepsOf back := by
  simp only [stepsOf, List.map_append, List.filter_append]

theorem stepsOf_of_idle {segments : List Name}
    (idle : ∀ segment ∈ segments, isIdle segment = true) : stepsOf segments = [] := by
  rw [stepsOf, List.filter_eq_nil_iff]
  intro component member
  obtain ⟨segment, present, rfl⟩ := List.mem_map.mp member
  rw [moves_ofSegment, idle segment present]
  decide

theorem stepsOf_singleton {segment : Name} (active : ¬ isIdle segment = true) :
    stepsOf [segment] = [Component.ofSegment segment] := by
  simp [stepsOf, moves_ofSegment, active]

theorem exists_idle_end (segments : List Name) :
    ∃ ending, segments = (segments.reverse.dropWhile isIdle).reverse ++ ending ∧
      ∀ segment ∈ ending, isIdle segment = true := by
  refine ⟨(segments.reverse.takeWhile isIdle).reverse, ?_, ?_⟩
  · rw [← List.reverse_append, List.takeWhile_append_dropWhile, List.reverse_reverse]
  · intro segment member
    exact List.mem_takeWhile_imp (List.mem_reverse.mp member)

theorem entry_mem_steps {path : Path} {before after : List Component} {name : Name}
    (divided : path.components = before ++ .entry name :: after) : .entry name ∈ path.steps := by
  have member : Component.entry name ∈ path.components := by
    rw [divided]
    exact List.mem_append_right _ List.mem_cons_self
  exact List.mem_filter.mpr ⟨member, rfl⟩

theorem mem_segments_of_components {path : Path} {name : Name}
    (member : .entry name ∈ path.components) : name ∈ path.segments := by
  obtain ⟨segment, present, same⟩ := List.mem_map.mp member
  rwa [← (ofSegment_eq_entry same).1]

theorem mem_segments_of_steps {path : Path} {name : Name} (member : .entry name ∈ path.steps) :
    name ∈ path.segments :=
  mem_segments_of_components (List.mem_filter.mp member).1

/-! ### Parents -/

theorem exists_segments (path : Path) :
    path.segments = path.firstSegment :: path.segments.drop 1 := by
  unfold firstSegment
  cases divided : path.segments with
  | nil => exact absurd divided (splitSegments_ne_nil path.bytes)
  | cons first further => rfl

theorem isAbsolute_iff (path : Path) :
    path.isAbsolute = true ↔ path.firstSegment = [] ∧ path.bytes ≠ [] := by
  obtain ⟨bytes⟩ := path
  cases bytes with
  | nil => simp [isAbsolute]
  | cons byte rest =>
      by_cases separates : byte = slash
      · simp [isAbsolute, firstSegment, segments, splitSegments, separates]
      · have relative : firstSegment ⟨byte :: rest⟩ ≠ [] := by
          rw [firstSegment, segments, splitSegments, if_neg separates]
          cases splitSegments rest <;> simp
        simp [isAbsolute, separates, relative]

/-- How a path divides into its parent, the segment that the parent lacks, and idle segments. -/
structure ParentParts (path parent : Path) (kept : List Name) (last : Name)
    (between ending : List Name) : Prop where
  segments_eq : path.segments = kept ++ between ++ last :: ending
  last_eq : path.furtherSegments.headD path.firstSegment = last
  idle_between : ∀ segment ∈ between, isIdle segment = true
  idle_ending : ∀ segment ∈ ending, isIdle segment = true
  parent_eq : kept ≠ [[]] ∧ parent.bytes = joined kept ∨ kept = [[]] ∧ parent.bytes = [slash]
  relative : kept = [] → path.firstSegment ≠ []

theorem exists_parentParts {path parent : Path} (has : path.parent? = some parent) :
    ∃ kept last between ending, ParentParts path parent kept last between ending := by
  obtain ⟨ending, others, idleEnding⟩ := exists_idle_end (path.segments.drop 1)
  have whole := exists_segments path
  unfold parent? at has
  cases further : path.furtherSegments with
  | nil =>
      have none : (path.segments.drop 1).reverse.dropWhile isIdle = [] := further
      rw [none] at others
      simp only [further] at has
      split at has
      · cases has
      next relative =>
          cases has
          refine ⟨[], path.firstSegment, [], ending, ?_, ?_, ?_, idleEnding,
            Or.inl ⟨by simp, rfl⟩, ?_⟩
          · rw [whole, others]
            rfl
          · rw [further]
            rfl
          · intro segment member
            cases member
          · exact fun _ => relative
  | cons last outer =>
      have some : (path.segments.drop 1).reverse.dropWhile isIdle = last :: outer := further
      obtain ⟨between, inner, idleBetween⟩ := exists_idle_end outer.reverse
      rw [List.reverse_reverse] at inner
      rw [some, List.reverse_cons, inner] at others
      refine ⟨path.firstSegment :: (outer.dropWhile isIdle).reverse, last, between, ending,
        ?_, ?_, idleBetween, idleEnding, ?_, ?_⟩
      · rw [whole, others]
        simp
      · rw [further]
        rfl
      · simp only [further] at has
        split at has
        next root empty =>
            cases has
            rw [root, empty]
            exact Or.inr ⟨rfl, rfl⟩
        next apart =>
            left
            constructor
            · intro root
              obtain ⟨first, empty⟩ := List.cons.inj root
              exact apart first (List.reverse_eq_nil_iff.mp empty)
            · exact (congrArg Path.bytes (Option.some.inj has)).symm
      · intro impossible
        cases impossible

namespace ParentParts

variable {path parent : Path} {kept : List Name} {last : Name} {between ending : List Name}

theorem parent_bytes_begin (parts : ParentParts path parent kept last between ending) :
    parent.bytes <+: path.bytes := by
  have whole : joined path.segments = path.bytes := joined_splitSegments path.bytes
  rcases parts.parent_eq with ⟨-, same⟩ | ⟨root, same⟩
  · rw [same, ← whole, parts.segments_eq, List.append_assoc]
    exact joined_append_begins kept _
  · rw [same, ← whole, parts.segments_eq, root]
    cases between with
    | nil =>
        rw [List.append_nil, List.singleton_append, joined_cons_cons]
        exact List.prefix_append [slash] _
    | cons second further =>
        rw [List.append_assoc, List.singleton_append, List.cons_append, joined_cons_cons]
        exact List.prefix_append [slash] _

theorem stepsOf_parent (parts : ParentParts path parent kept last between ending) :
    parent.steps = stepsOf kept := by
  rcases parts.parent_eq with ⟨-, same⟩ | ⟨root, same⟩
  · cases kept with
    | nil =>
        rw [steps_eq_stepsOf, segments, same]
        rfl
    | cons first further =>
        have plain : ∀ segment ∈ first :: further, slash ∉ segment := by
          intro segment member
          have present : segment ∈ path.segments := by
            rw [parts.segments_eq, List.append_assoc]
            exact List.mem_append_left _ member
          exact slash_not_mem_segment present
        rw [steps_eq_stepsOf, segments, same, splitSegments_joined plain]
  · rw [steps_eq_stepsOf, segments, same, root]
    rfl

end ParentParts

theorem steps_of_parent? {path parent : Path} (has : path.parent? = some parent) :
    path.steps =
      parent.steps ++ stepsOf [path.furtherSegments.headD path.firstSegment] := by
  obtain ⟨kept, last, between, ending, parts⟩ := exists_parentParts has
  have divided : kept ++ between ++ last :: ending = kept ++ (between ++ ([last] ++ ending)) := by
    simp
  rw [steps_eq_stepsOf, parts.segments_eq, parts.last_eq, parts.stepsOf_parent, divided,
    stepsOf_append, stepsOf_append, stepsOf_append, stepsOf_of_idle parts.idle_between,
    stepsOf_of_idle parts.idle_ending, List.append_nil, List.nil_append]

theorem parent?_bytes_begin {path parent : Path} (has : path.parent? = some parent) :
    parent.bytes <+: path.bytes := by
  obtain ⟨kept, last, between, ending, parts⟩ := exists_parentParts has
  exact parts.parent_bytes_begin

theorem isAbsolute_of_beginning {path outer : Path} (begins : outer.bytes <+: path.bytes)
    (written : outer.isEmpty = false) : outer.isAbsolute = path.isAbsolute := by
  obtain ⟨rest, whole⟩ := begins
  unfold isAbsolute
  cases bytes : outer.bytes with
  | nil =>
      rw [isEmpty, bytes] at written
      cases written
  | cons byte further =>
      rw [← whole, bytes]
      rfl

theorem not_isAbsolute_of_parent?_empty {path parent : Path} (has : path.parent? = some parent)
    (empty : parent.isEmpty = true) : path.isAbsolute = false := by
  obtain ⟨kept, last, between, ending, parts⟩ := exists_parentParts has
  rw [isEmpty, List.isEmpty_iff] at empty
  rw [← Bool.not_eq_true, isAbsolute_iff]
  rintro ⟨root, -⟩
  rcases parts.parent_eq with ⟨notRoot, same⟩ | ⟨-, same⟩
  · rw [empty] at same
    cases kept with
    | nil => exact parts.relative rfl root
    | cons first further =>
        cases further with
        | nil => exact notRoot (congrArg (fun name => [name]) same.symm)
        | cons second further =>
            rw [joined_cons_cons] at same
            simp at same
  · rw [empty] at same
    cases same

theorem isAbsolute_of_parent? {path parent : Path} (has : path.parent? = some parent) :
    parent.isAbsolute = path.isAbsolute := by
  cases written : parent.isEmpty with
  | false => exact isAbsolute_of_beginning (parent?_bytes_begin has) written
  | true =>
      rw [not_isAbsolute_of_parent?_empty has written, isAbsolute, List.isEmpty_iff.mp written]
      rfl

/-! ### File names -/

theorem steps_eq_nil_of_idle {path : Path}
    (idle : isIdle (path.furtherSegments.headD path.firstSegment) = true) : path.steps = [] := by
  obtain ⟨ending, others, idleEnding⟩ := exists_idle_end (path.segments.drop 1)
  cases further : path.furtherSegments with
  | nil =>
      have none : (path.segments.drop 1).reverse.dropWhile isIdle = [] := further
      rw [further, List.headD_nil] at idle
      rw [none, List.reverse_nil, List.nil_append] at others
      rw [steps_eq_stepsOf, exists_segments path, others]
      apply stepsOf_of_idle
      intro segment member
      rcases List.mem_cons.mp member with rfl | later
      · exact idle
      · exact idleEnding segment later
  | cons last outer =>
      have some : (path.segments.drop 1).reverse.dropWhile isIdle = last :: outer := further
      have first := List.head?_dropWhile_not isIdle (path.segments.drop 1).reverse
      rw [some] at first
      rw [further, List.headD_cons] at idle
      simp only [List.head?_cons] at first
      rw [idle] at first
      cases first

theorem fileName?_of_steps {path : Path} {front : List Component} {name : Name}
    (ends : path.steps = front ++ [.entry name]) :
    path.fileName? = some name ∧ ∃ parent, path.parent? = some parent ∧ parent.steps = front := by
  have active : ¬ isIdle (path.furtherSegments.headD path.firstSegment) = true := by
    intro idle
    rw [steps_eq_nil_of_idle idle] at ends
    simp at ends
  have inhabited : ∃ parent, path.parent? = some parent := by
    unfold parent?
    cases further : path.furtherSegments with
    | nil =>
        rw [further, List.headD_nil] at active
        have named : path.firstSegment ≠ [] := fun empty => active (by rw [empty]; decide)
        exact ⟨⟨[]⟩, by simp [named]⟩
    | cons last outer =>
        simp only
        split
        · exact ⟨_, rfl⟩
        · exact ⟨_, rfl⟩
  obtain ⟨parent, has⟩ := inhabited
  rw [steps_of_parent? has, stepsOf_singleton active] at ends
  obtain ⟨sameFront, sameLast⟩ := List.append_inj' ends rfl
  obtain ⟨same, blank, here, up⟩ := ofSegment_eq_entry (List.cons.inj sameLast).1
  refine ⟨?_, parent, has, sameFront⟩
  unfold fileName?
  rw [same]
  simp [blank, here, up]

/-! ### Joining a name -/

/-- A name that a directory can hold an entry by. -/
structure IsName (name : Name) : Prop where
  entry : Component.ofSegment name = .entry name
  plain : slash ∉ name

instance (name : Name) : Decidable (IsName name) :=
  decidable_of_iff (Component.ofSegment name = .entry name ∧ slash ∉ name)
    ⟨fun ⟨entry, plain⟩ => ⟨entry, plain⟩, fun proper => ⟨proper.entry, proper.plain⟩⟩

theorem IsName.not_isAbsolute {name : Name} (proper : IsName name) :
    (⟨name⟩ : Path).isAbsolute = false := by
  rw [← Bool.not_eq_true]
  intro absolute
  rw [isAbsolute, decide_eq_true_eq] at absolute
  exact proper.plain (List.mem_of_head? absolute)

theorem isAbsolute_join {base : Path} {name : Name} (proper : IsName name) :
    (base.join ⟨name⟩).isAbsolute = base.isAbsolute := by
  have relative := proper.not_isAbsolute
  rw [join, relative, if_neg (by decide)]
  cases bytes : base.bytes with
  | nil =>
      have first : base.isAbsolute = false := by
        rw [isAbsolute, bytes]
        rfl
      rw [first]
      exact relative
  | cons byte further =>
      have first : base.isAbsolute = decide (some byte = some slash) := by
        rw [isAbsolute, bytes]
        rfl
      rw [first]
      split <;> rfl

theorem bytes_begin_join {base : Path} {name : Name} (proper : IsName name) :
    base.bytes <+: (base.join ⟨name⟩).bytes := by
  rw [join, proper.not_isAbsolute, if_neg (by decide)]
  split
  · exact List.prefix_append _ _
  · exact List.prefix_append _ _

theorem components_join {base : Path} {name : Name} (proper : IsName name) :
    ∃ before, (base.join ⟨name⟩).components = before ++ [.entry name] ∧
      before.filter Component.moves = base.steps := by
  have relative := proper.not_isAbsolute
  have alone : splitSegments name = [name] := splitSegments_of_no_slash proper.plain
  unfold join
  rw [relative]
  simp only [Bool.false_eq_true, if_false]
  cases final : base.bytes.getLast? with
  | none =>
      have empty : base.bytes = [] := List.getLast?_eq_none_iff.mp final
      refine ⟨[], ?_, ?_⟩
      · simp [components, segments, empty, alone, proper.entry]
      · simp [steps, components, segments, empty, splitSegments, Component.ofSegment,
          Component.moves]
  | some byte =>
      by_cases separates : byte = slash
      · obtain ⟨front, ends⟩ := List.getLast?_eq_some_iff.mp final
        rw [separates] at ends
        refine ⟨(splitSegments front).map Component.ofSegment, ?_, ?_⟩
        · simp [separates, components, segments, ends, splitSegments_append, alone, proper.entry]
        · have divided := splitSegments_append front []
          simp [steps, components, segments, ends, divided, splitSegments, Component.ofSegment,
            Component.moves]
      · refine ⟨base.components, ?_, rfl⟩
        simp [separates, components, segments, splitSegments_append, alone, proper.entry]

theorem components_withFileName {path : Path} {name : Name} (proper : IsName name) :
    ∃ before, (path.withFileName name).components = before ++ [.entry name] := by
  unfold withFileName
  split
  · obtain ⟨before, divided, -⟩ := components_join proper
    exact ⟨before, divided⟩
  · obtain ⟨before, divided, -⟩ := components_join proper
    exact ⟨before, divided⟩

theorem withFileName_beside {path : Path} {name other : Name} {front : List Component}
    (proper : IsName other) (ends : path.steps = front ++ [.entry name]) :
    (path.withFileName other).isAbsolute = path.isAbsolute ∧
      ∃ before, (path.withFileName other).components = before ++ [.entry other] ∧
        before.filter Component.moves = front := by
  obtain ⟨named, parent, has, same⟩ := fileName?_of_steps ends
  obtain ⟨before, divided, idle⟩ := @components_join parent other proper
  rw [withFileName, named, has]
  refine ⟨?_, before, divided, idle.trans same⟩
  rw [isAbsolute_join proper, isAbsolute_of_parent? has]

end Path

end Scaffold
