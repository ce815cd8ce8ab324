import Scaffold.Proofs.Path.Steps

/-! The names in a path.

A path that never goes up is known by the names in it, one for each directory to enter and one for
the entry in the end. Its parent lacks the last name, and the path of another file beside it has
another last name. How a path ends is said apart: a slash or `.` after the last name asks for a
directory there. -/

set_option autoImplicit false

namespace Scaffold

/-- The name that a component asks for, if it asks for an entry. -/
def Component.name? : Component → Option Name
  | .entry name => some name
  | _ => none

namespace Path

def namesOf (components : List Component) : List Name := components.filterMap Component.name?

def names (path : Path) : List Name := namesOf path.components

/-- Components end in a name, with nothing after it. -/
def EndInName (components : List Component) : Prop :=
  ∃ before name, components = before ++ [.entry name]

variable {path parent outer : Path} {name : Name} {components front back : List Component}

theorem namesOf_append : namesOf (front ++ back) = namesOf front ++ namesOf back :=
  List.filterMap_append

theorem mem_namesOf_iff : name ∈ namesOf components ↔ .entry name ∈ components := by
  unfold namesOf
  rw [List.mem_filterMap]
  constructor
  · intro present
    obtain ⟨component, member, same⟩ := present
    cases component with
    | entry other =>
        cases same
        exact member
    | _ => cases same
  · intro member
    exact ⟨_, member, rfl⟩

theorem names_eq_append (divided : path.components = front ++ [.entry name]) :
    path.names = namesOf front ++ [name] := by
  rw [names, divided, namesOf_append]
  rfl

theorem mem_segments_of_names (member : name ∈ path.names) : name ∈ path.segments :=
  mem_segments_of_components (mem_namesOf_iff.mp member)

theorem isName_of_mem_steps (member : .entry name ∈ path.steps) : IsName name := by
  obtain ⟨segment, present, same⟩ := List.mem_map.mp (List.mem_filter.mp member).1
  obtain ⟨rfl, -⟩ := ofSegment_eq_entry same
  exact ⟨same, slash_not_mem_segment present⟩

theorem namesOf_filter_moves (components : List Component) :
    namesOf (components.filter Component.moves) = namesOf components := by
  induction components with
  | nil => rfl
  | cons component components ih =>
      cases component with
      | blank => exact ih
      | here => exact ih
      | up => exact ih
      | entry name => exact congrArg (name :: ·) ih

theorem names_eq_of_steps (path : Path) : path.names = namesOf path.steps :=
  (namesOf_filter_moves path.components).symm

theorem up_mem_steps_iff : .up ∈ path.steps ↔ .up ∈ path.components := by
  unfold steps
  rw [List.mem_filter]
  exact and_iff_left rfl

theorem exists_entry_of_mem_steps {step : Component} (level : .up ∉ path.components)
    (member : step ∈ path.steps) : ∃ name, step = .entry name := by
  have kept := List.mem_filter.mp member
  cases step with
  | blank => cases kept.2
  | here => cases kept.2
  | up => exact absurd kept.1 level
  | entry name => exact ⟨name, rfl⟩

theorem names_ne_nil_of_steps (level : .up ∉ path.components) (moved : path.steps ≠ []) :
    path.names ≠ [] := by
  obtain ⟨step, further, same⟩ := List.exists_cons_of_ne_nil moved
  have member : step ∈ path.steps := by
    rw [same]
    exact List.mem_cons_self
  obtain ⟨name, rfl⟩ := exists_entry_of_mem_steps level member
  intro none
  have named := mem_namesOf_iff.mpr member
  rw [← names_eq_of_steps, none] at named
  cases named

/-! ### Parents -/

theorem names_parent? (has : path.parent? = some parent) (level : .up ∉ path.components) :
    parent.names = path.names.dropLast := by
  have divided := steps_of_parent? has
  by_cases idle : isIdle (path.furtherSegments.headD path.firstSegment) = true
  · have still := steps_eq_nil_of_idle idle
    have shorter : parent.steps = [] := by
      rw [still] at divided
      exact (List.append_eq_nil_iff.mp divided.symm).1
    rw [names_eq_of_steps, names_eq_of_steps, still, shorter]
    rfl
  · rw [stepsOf_singleton idle] at divided
    have member : Component.ofSegment (path.furtherSegments.headD path.firstSegment) ∈
        path.steps := by
      rw [divided]
      exact List.mem_append_right _ List.mem_cons_self
    obtain ⟨name, asked⟩ := exists_entry_of_mem_steps level member
    rw [names_eq_of_steps, names_eq_of_steps path, divided, asked, namesOf_append]
    exact List.dropLast_concat.symm

theorem level_of_parent? (has : path.parent? = some parent) (level : .up ∉ path.components) :
    .up ∉ parent.components := by
  rw [← up_mem_steps_iff] at level ⊢
  rw [steps_of_parent? has] at level
  exact fun member => level (List.mem_append_left _ member)

theorem length_parent?_lt (has : path.parent? = some parent) (level : .up ∉ path.components)
    (named : path.names ≠ []) : parent.bytes.length < path.bytes.length := by
  have begins := parent?_bytes_begin has
  refine Nat.lt_of_le_of_ne begins.length_le ?_
  intro same
  have whole : parent = path := congrArg Path.mk (begins.eq_of_length same)
  have shorter := congrArg List.length (names_parent? has level)
  have positive := List.length_pos_iff.mpr named
  rw [whole, List.length_dropLast] at shorter
  omega

theorem segments_parent? (has : path.parent? = some parent) :
    (∀ segment ∈ parent.segments, isIdle segment = true) ∨
      ∃ before final, parent.segments = before ++ [final] ∧ ¬ isIdle final = true := by
  have plain : ∀ segment ∈ path.firstSegment :: path.segments.drop 1, slash ∉ segment := by
    rw [← exists_segments path]
    exact fun segment member => slash_not_mem_segment member
  have alone (first : Name) (same : parent.segments = [first]) :
      (∀ segment ∈ parent.segments, isIdle segment = true) ∨
        ∃ before final, parent.segments = before ++ [final] ∧ ¬ isIdle final = true := by
    rw [same]
    by_cases idle : isIdle first = true
    · exact Or.inl fun segment member => List.mem_singleton.mp member ▸ idle
    · exact Or.inr ⟨[], first, rfl, idle⟩
  unfold parent? at has
  cases further : path.furtherSegments with
  | nil =>
      simp only [further] at has
      split at has
      · cases has
      · cases has
        exact alone [] rfl
  | cons last outer =>
      simp only [further] at has
      split at has
      · cases has
        left
        decide
      · have kept : ∀ segment ∈ (outer.dropWhile isIdle).reverse, slash ∉ segment := by
          intro segment member
          have inside : segment ∈ path.furtherSegments := by
            rw [further]
            exact List.mem_cons_of_mem _
              ((List.dropWhile_suffix isIdle).subset (List.mem_reverse.mp member))
          have deeper := (List.dropWhile_suffix isIdle).subset inside
          exact plain segment (List.mem_cons_of_mem _ (List.mem_reverse.mp deeper))
        have divided : parent.segments =
            path.firstSegment :: (outer.dropWhile isIdle).reverse := by
          cases has
          exact splitSegments_joined
            (List.forall_mem_cons.mpr ⟨plain _ List.mem_cons_self, kept⟩)
        -- Segments that do not count are dropped up to one that does, or to the first segment.
        cases inner : outer.dropWhile isIdle with
        | nil =>
            rw [inner] at divided
            exact alone _ divided
        | cons final before =>
            rw [inner, List.reverse_cons, ← List.cons_append] at divided
            have active := List.head?_dropWhile_not isIdle outer
            rw [inner] at active
            exact Or.inr ⟨_, final, divided, Bool.not_eq_true _ ▸ active⟩

theorem endInName_parent? (has : path.parent? = some parent) (level : .up ∉ path.components) :
    parent.names = [] ∨ EndInName parent.components := by
  have lower := level_of_parent? has level
  unfold components at lower ⊢
  obtain idle | ⟨before, final, divided, active⟩ := segments_parent? has
  · left
    rw [names_eq_of_steps, steps_eq_stepsOf, stepsOf_of_idle idle]
    rfl
  · right
    rw [divided, List.map_append] at lower ⊢
    have moves := moves_ofSegment final
    rw [eq_false_of_ne_true active] at moves
    cases asked : Component.ofSegment final with
    | blank => rw [asked] at moves; cases moves
    | here => rw [asked] at moves; cases moves
    | up => exact absurd (List.mem_append_right _ (List.mem_singleton.mpr asked.symm)) lower
    | entry name => exact ⟨_, name, congrArg (_ ++ [·]) asked⟩

theorem exists_parent? (divided : path.components = front ++ [.entry name]) :
    ∃ parent, path.parent? = some parent ∧ parent.names = namesOf front := by
  have steps : path.steps = front.filter Component.moves ++ [.entry name] := by
    rw [Path.steps, divided, List.filter_append]
    rfl
  obtain ⟨-, parent, has, same⟩ := fileName?_of_steps steps
  exact ⟨parent, has, by rw [names_eq_of_steps, same, namesOf_filter_moves]⟩

theorem names_of_isEmpty (empty : path.isEmpty = true) : path.names = [] := by
  rw [isEmpty, List.isEmpty_iff] at empty
  rw [names, components, segments, empty]
  rfl

/-! ### Names beside the last one -/

theorem exists_last_step (level : .up ∉ path.components) (named : path.names ≠ []) :
    ∃ front name, path.steps = front ++ [.entry name] := by
  have moved : path.steps ≠ [] := by
    intro none
    rw [names_eq_of_steps, none] at named
    exact named rfl
  obtain ⟨front, step, divided⟩ := List.eq_nil_or_concat path.steps |>.resolve_left moved
  rw [List.concat_eq_append] at divided
  have member : step ∈ path.steps := by
    rw [divided]
    exact List.mem_append_right _ List.mem_cons_self
  obtain ⟨name, rfl⟩ := exists_entry_of_mem_steps level member
  exact ⟨front, name, divided⟩

theorem withFileName_of_unnamed (name : Name) (level : .up ∉ path.components)
    (unnamed : path.names = []) : path.withFileName name = path.join ⟨name⟩ := by
  unfold withFileName
  cases has : path.parent? with
  | none => cases path.fileName? <;> rfl
  | some parent =>
      by_cases idle : isIdle (path.furtherSegments.headD path.firstSegment) = true
      · have nameless : path.fileName? = none :=
          if_pos (Bool.or_eq_true_iff.mpr (Or.inl idle))
        rw [nameless]
      · refine absurd unnamed (names_ne_nil_of_steps level ?_)
        rw [steps_of_parent? has, stepsOf_singleton idle]
        exact List.append_ne_nil_of_right_ne_nil _ (List.cons_ne_nil _ _)

theorem exists_components_join {base : Path} (proper : IsName name)
    (level : .up ∉ base.components) :
    ∃ before, (base.join ⟨name⟩).components = before ++ [.entry name] ∧
      namesOf before = base.names ∧ .up ∉ before := by
  obtain ⟨before, divided, same⟩ := @components_join base name proper
  refine ⟨before, divided, ?_, fun member => level ?_⟩
  · rw [← namesOf_filter_moves, same, ← names_eq_of_steps]
  · rw [← up_mem_steps_iff, ← same]
    exact List.mem_filter.mpr ⟨member, rfl⟩

theorem names_withFileName (proper : IsName name) (level : .up ∉ path.components) :
    ∃ before, (path.withFileName name).components = before ++ [.entry name] ∧
      namesOf before = path.names.dropLast ∧ .up ∉ before ∧
        (path.withFileName name).isAbsolute = path.isAbsolute := by
  by_cases named : path.names = []
  · obtain ⟨before, divided, shorter, lower⟩ := exists_components_join proper level
    rw [withFileName_of_unnamed name level named]
    refine ⟨before, divided, shorter.trans ?_, lower, isAbsolute_join proper⟩
    rw [named]
    rfl
  · obtain ⟨front, last, steps⟩ := exists_last_step level named
    obtain ⟨has, parent, outer, -⟩ := fileName?_of_steps steps
    obtain ⟨before, divided, shorter, lower⟩ :=
      exists_components_join proper (level_of_parent? outer level)
    rw [withFileName, has, outer]
    exact ⟨before, divided, shorter.trans (names_parent? outer level), lower,
      (isAbsolute_join proper).trans (isAbsolute_of_parent? outer)⟩

/-- What a path of a file beside another one is written with, up to the name of the file. -/
theorem exists_bytes_withFileName (path : Path) :
    ∃ front, ∀ name, IsName name → (path.withFileName name).bytes = front ++ name := by
  have joins (base : Path) :
      ∃ front, ∀ name, IsName name → (base.join ⟨name⟩).bytes = front ++ name := by
    cases ends : base.bytes.getLast?.all (· == slash) with
    | true =>
        refine ⟨base.bytes, fun name proper => ?_⟩
        rw [join, proper.not_isAbsolute, if_neg (by decide), ends, if_pos rfl]
    | false =>
        refine ⟨base.bytes ++ [slash], fun name proper => ?_⟩
        rw [join, proper.not_isAbsolute, if_neg (by decide), ends, if_neg (by decide),
          List.append_assoc]
        rfl
  unfold withFileName
  split
  · exact joins _
  · exact joins _

end Path

end Scaffold
