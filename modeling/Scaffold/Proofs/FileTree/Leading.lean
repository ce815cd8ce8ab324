import Scaffold.FileTree.Resolve
import Scaffold.Proofs.Path.Steps

/-! Which directory components lead to.

`Leads` is path resolution as a relation, restricted to components that all lead to directories. It
keeps count of the links that may still be followed, so that resolution can be cut in two. Main
statements: resolution begins with the part that leads to directories and goes on from there
(`walk_append`, `exists_leads_of_walk`), and only the steps of a path matter
(`Leads.of_same_steps`). -/

set_option autoImplicit false

namespace Scaffold.FileTree

variable {tree : FileTree}

/-! ### Directories around entries -/

theorem isDirectory_of_at?_cons {name : Name} {parent : Location} {entry : Entry}
    (found : tree.at? (name :: parent) = some entry) : tree.IsDirectory parent :=
  tree.parents_directories name parent (mem_of_lookup found)

theorem IsDirectory.tail {location : Location} (directory : tree.IsDirectory location) :
    tree.IsDirectory location.tail := by
  cases location with
  | nil => exact directory
  | cons name parent =>
      obtain ⟨mode, found⟩ := directory
      exact isDirectory_of_at?_cons found

theorem isDirectory_root : tree.IsDirectory [] := ⟨rootMode, rfl⟩

theorem IsDirectory.startOf {directory : Location} (inside : tree.IsDirectory directory)
    (path : Path) : tree.IsDirectory (startOf directory path) := by
  unfold FileTree.startOf
  split
  · exact isDirectory_root
  · exact inside

theorem startOf_parent? {path parent : Path} (directory : Location)
    (has : path.parent? = some parent) : startOf directory parent = startOf directory path := by
  unfold startOf
  rw [Path.isAbsolute_of_parent? has]

/-! ### One component at a time -/

variable {intent : Intent} {links : Nat} {directory : Location} {rest : List Component}

theorem walk_nil : tree.walk intent links directory [] = .ok (.existing directory) := by
  cases links <;> rfl

theorem walk_blank :
    tree.walk intent links directory (.blank :: rest) = tree.walk intent links directory rest := by
  cases links <;> rfl

theorem walk_here :
    tree.walk intent links directory (.here :: rest) = tree.walk intent links directory rest := by
  cases links <;> rfl

theorem walk_up :
    tree.walk intent links directory (.up :: rest) =
      tree.walk intent links directory.tail rest := by
  cases links <;> rfl

/-- What a name leads to, where the components after it do not forbid that it is taken up. -/
theorem walk_entry {name : Name}
    (open' : ¬ (intent = .create ∧ rest ≠ [] ∧ rest.all (· = .blank)))
    (short : ¬ tree.limits.nameBytes < name.length) :
    tree.walk intent links directory (.entry name :: rest) =
      match tree.at? (name :: directory) with
      | none => if rest = [] then .ok (.missing directory name) else .error .notFound
      | some (.directory _) => tree.walk intent links (name :: directory) rest
      | some (.file _) =>
          if rest = [] then .ok (.existing (name :: directory)) else .error .notADirectory
      | some (.link target) =>
          match links with
          | 0 => .error .tooManyLinks
          | fewer + 1 =>
              tree.walk intent fewer (startOf directory target) (target.components ++ rest) := by
  cases links with
  | zero => exact (if_neg open').trans (if_neg short)
  | succ fewer => exact (if_neg open').trans (if_neg short)

/-- Looking at a path never forbids a name for what follows it. -/
theorem open_of_inspect {components : List Component} :
    ¬ (Intent.inspect = .create ∧ components ≠ [] ∧ components.all (· = .blank)) := by
  rintro ⟨creating, -⟩
  cases creating

theorem walk_entry_refused {name : Name}
    (closed : (intent = .create ∧ rest ≠ [] ∧ rest.all (· = .blank)) ∨
      tree.limits.nameBytes < name.length) :
    ∃ fault, tree.walk intent links directory (.entry name :: rest) = .error fault := by
  by_cases shut : intent = .create ∧ rest ≠ [] ∧ rest.all (· = .blank)
  · refine ⟨.isADirectory, ?_⟩
    cases links <;> rw [walk, walkWith, if_pos shut]
  · have long := closed.resolve_left shut
    refine ⟨.nameTooLong, ?_⟩
    cases links <;> rw [walk, walkWith, if_neg shut, if_pos long]

/-! ### Components that lead to directories -/

/-- From a directory and with a number of links allowed, components lead to a directory, and so
many links are still allowed there. -/
inductive Leads (tree : FileTree) : Nat → Location → List Component → Nat → Location → Prop
  | done {links : Nat} {directory : Location} : Leads tree links directory [] links directory
  | blank {links left : Nat} {directory reached : Location} {rest : List Component} :
      Leads tree links directory rest left reached →
      Leads tree links directory (.blank :: rest) left reached
  | here {links left : Nat} {directory reached : Location} {rest : List Component} :
      Leads tree links directory rest left reached →
      Leads tree links directory (.here :: rest) left reached
  | up {links left : Nat} {directory reached : Location} {rest : List Component} :
      Leads tree links directory.tail rest left reached →
      Leads tree links directory (.up :: rest) left reached
  | enter {links left : Nat} {directory reached : Location} {rest : List Component}
      {name : Name} {mode : UInt32} :
      ¬ tree.limits.nameBytes < name.length →
      tree.at? (name :: directory) = some (.directory mode) →
      Leads tree links (name :: directory) rest left reached →
      Leads tree links directory (.entry name :: rest) left reached
  | follow {links left : Nat} {directory reached : Location} {rest : List Component}
      {name : Name} {target : Path} :
      ¬ tree.limits.nameBytes < name.length →
      tree.at? (name :: directory) = some (.link target) →
      Leads tree links (startOf directory target) (target.components ++ rest) left reached →
      Leads tree (links + 1) directory (.entry name :: rest) left reached

namespace Leads

variable {left other : Nat} {reached place : Location} {components further : List Component}

theorem isDirectory (leads : tree.Leads links directory components left reached)
    (inside : tree.IsDirectory directory) : tree.IsDirectory reached := by
  induction leads with
  | done => exact inside
  | blank _ ih => exact ih inside
  | here _ ih => exact ih inside
  | up _ ih => exact ih inside.tail
  | enter _ found _ ih => exact ih ⟨_, found⟩
  | follow _ _ _ ih => exact ih (inside.startOf _)

theorem walk_append (leads : tree.Leads links directory components left reached)
    (solid : intent = .create → rest.all (· = .blank) = false) :
    tree.walk intent links directory (components ++ rest) = tree.walk intent left reached rest := by
  have open' (before : List Component) :
      ¬ (intent = .create ∧ before ++ rest ≠ [] ∧ (before ++ rest).all (· = .blank)) := by
    rintro ⟨creating, -, blank⟩
    rw [List.all_append, solid creating, Bool.and_false] at blank
    cases blank
  induction leads with
  | done => rfl
  | blank _ ih => exact walk_blank.trans ih
  | here _ ih => exact walk_here.trans ih
  | up _ ih => exact walk_up.trans ih
  | enter short found _ ih =>
      rw [List.cons_append, walk_entry (open' _) short, found]
      exact ih
  | follow short found _ ih =>
      rw [List.cons_append, walk_entry (open' _) short, found]
      simp only [← List.append_assoc]
      exact ih

theorem inspect_append (leads : tree.Leads links directory components left reached)
    (rest : List Component) :
    tree.walk .inspect links directory (components ++ rest) =
      tree.walk .inspect left reached rest :=
  leads.walk_append (by intro creating; cases creating)

theorem walk_eq (leads : tree.Leads links directory components left reached) :
    tree.walk .inspect links directory components = .ok (.existing reached) := by
  have whole := leads.inspect_append []
  rwa [List.append_nil, walk_nil] at whole

theorem unique (leads : tree.Leads links directory components left reached)
    (again : tree.Leads links directory components other place) : left = other ∧ reached = place := by
  induction leads with
  | done => cases again; exact ⟨rfl, rfl⟩
  | blank _ ih => cases again with | blank later => exact ih later
  | here _ ih => cases again with | here later => exact ih later
  | up _ ih => cases again with | up later => exact ih later
  | enter _ found _ ih =>
      cases again with
      | enter _ _ later => exact ih later
      | follow _ linked _ => rw [found] at linked; cases linked
  | follow _ found _ ih =>
      cases again with
      | enter _ entered _ => rw [found] at entered; cases entered
      | follow _ linked later =>
          rw [found] at linked
          cases linked
          exact ih later

theorem append (leads : tree.Leads links directory components left reached)
    (onward : tree.Leads left reached further other place) :
    tree.Leads links directory (components ++ further) other place := by
  induction leads with
  | done => exact onward
  | blank _ ih => exact .blank (ih onward)
  | here _ ih => exact .here (ih onward)
  | up _ ih => exact .up (ih onward)
  | enter short found _ ih => exact .enter short found (ih onward)
  | follow short found _ ih =>
      refine .follow short found ?_
      have later := ih onward
      rwa [List.append_assoc] at later

theorem split {first second : List Component}
    (leads : tree.Leads links directory (first ++ second) left reached) :
    ∃ between midway, tree.Leads links directory first between midway ∧
      tree.Leads between midway second left reached := by
  generalize whole : first ++ second = components at leads
  induction leads generalizing first with
  | @done links directory =>
      obtain ⟨rfl, rfl⟩ := List.append_eq_nil_iff.mp whole
      exact ⟨links, directory, .done, .done⟩
  | blank later ih =>
      rcases List.append_eq_cons_iff.mp whole with ⟨rfl, rfl⟩ | ⟨further, rfl, rest⟩
      · exact ⟨_, _, .done, .blank later⟩
      · obtain ⟨between, midway, before, after⟩ := ih rest.symm
        exact ⟨between, midway, .blank before, after⟩
  | here later ih =>
      rcases List.append_eq_cons_iff.mp whole with ⟨rfl, rfl⟩ | ⟨further, rfl, rest⟩
      · exact ⟨_, _, .done, .here later⟩
      · obtain ⟨between, midway, before, after⟩ := ih rest.symm
        exact ⟨between, midway, .here before, after⟩
  | up later ih =>
      rcases List.append_eq_cons_iff.mp whole with ⟨rfl, rfl⟩ | ⟨further, rfl, rest⟩
      · exact ⟨_, _, .done, .up later⟩
      · obtain ⟨between, midway, before, after⟩ := ih rest.symm
        exact ⟨between, midway, .up before, after⟩
  | enter short found later ih =>
      rcases List.append_eq_cons_iff.mp whole with ⟨rfl, rfl⟩ | ⟨further, rfl, rest⟩
      · exact ⟨_, _, .done, .enter short found later⟩
      · obtain ⟨between, midway, before, after⟩ := ih rest.symm
        exact ⟨between, midway, .enter short found before, after⟩
  | follow short found later ih =>
      rcases List.append_eq_cons_iff.mp whole with ⟨rfl, rfl⟩ | ⟨further, rfl, rest⟩
      · exact ⟨_, _, .done, .follow short found later⟩
      · obtain ⟨between, midway, before, after⟩ := ih (by rw [rest, List.append_assoc])
        exact ⟨between, midway, .follow short found before, after⟩

theorem of_idle_append (idle : ∀ component ∈ components, component.moves = false)
    (leads : tree.Leads links directory further left reached) :
    tree.Leads links directory (components ++ further) left reached := by
  induction components with
  | nil => exact leads
  | cons component components ih =>
      have later := ih fun other member => idle other (List.mem_cons_of_mem _ member)
      cases component with
      | blank => exact .blank later
      | here => exact .here later
      | up => cases idle .up List.mem_cons_self
      | entry name => cases idle (.entry name) List.mem_cons_self

theorem exists_first_step {others further : List Component} {step : Component}
    (same : others.filter Component.moves = step :: further) :
    ∃ idle later, others = idle ++ step :: later ∧
      (∀ component ∈ idle, component.moves = false) ∧ later.filter Component.moves = further := by
  obtain ⟨idle, later, divided, unmoved, -, onward⟩ := List.filter_eq_cons_iff.mp same
  exact ⟨idle, later, divided,
    fun component member => eq_false_of_ne_true (unmoved component member), onward⟩

theorem of_same_steps (leads : tree.Leads links directory components left reached)
    {others : List Component}
    (same : others.filter Component.moves = components.filter Component.moves) :
    tree.Leads links directory others left reached := by
  induction leads generalizing others with
  | @done links directory =>
      have unmoved := List.filter_eq_nil_iff.mp same
      have whole : tree.Leads links directory (others ++ []) links directory :=
        of_idle_append (fun component member => eq_false_of_ne_true (unmoved component member)) .done
      rwa [List.append_nil] at whole
  | blank _ ih => exact ih same
  | here _ ih => exact ih same
  | up _ ih =>
      obtain ⟨idle, later, rfl, unmoved, onward⟩ := exists_first_step same
      exact of_idle_append unmoved (.up (ih onward))
  | enter short found _ ih =>
      obtain ⟨idle, later, rfl, unmoved, onward⟩ := exists_first_step same
      exact of_idle_append unmoved (.enter short found (ih onward))
  | follow short found _ ih =>
      obtain ⟨idle, later, rfl, unmoved, onward⟩ := exists_first_step same
      refine of_idle_append unmoved (.follow short found (ih ?_))
      rw [List.filter_append, List.filter_append, onward]

theorem mono {before after : FileTree} (limits : after.limits = before.limits)
    (kept : ∀ location entry, entry.isFile = false → before.at? location = some entry →
      after.at? location = some entry)
    (leads : before.Leads links directory components left reached) :
    after.Leads links directory components left reached := by
  induction leads with
  | done => exact .done
  | blank _ ih => exact .blank ih
  | here _ ih => exact .here ih
  | up _ ih => exact .up ih
  | enter short found _ ih => exact .enter (by rwa [limits]) (kept _ _ rfl found) ih
  | follow short found _ ih => exact .follow (by rwa [limits]) (kept _ _ rfl found) ih

end Leads

/-- A resolution that goes past some components goes through a directory there, and so does one
that ends at a directory. -/
theorem exists_leads_of_walk {components rest : List Component} {destination : Destination}
    (onward : rest ≠ [] ∨ ∃ location, destination = .existing location ∧ tree.IsDirectory location)
    (walked : tree.walk intent links directory (components ++ rest) = .ok destination) :
    ∃ left reached, tree.Leads links directory components left reached ∧
      tree.walk intent left reached rest = .ok destination := by
  induction links using Nat.strong_induction_on generalizing directory components with
  | _ links fewerLinks =>
      induction components generalizing directory with
      | nil => exact ⟨links, directory, .done, walked⟩
      | cons component components ih =>
          rw [List.cons_append] at walked
          cases component with
          | blank =>
              rw [walk_blank] at walked
              obtain ⟨left, reached, leads, later⟩ := ih walked
              exact ⟨left, reached, .blank leads, later⟩
          | here =>
              rw [walk_here] at walked
              obtain ⟨left, reached, leads, later⟩ := ih walked
              exact ⟨left, reached, .here leads, later⟩
          | up =>
              rw [walk_up] at walked
              obtain ⟨left, reached, leads, later⟩ := ih walked
              exact ⟨left, reached, .up leads, later⟩
          | entry name =>
              -- Neither a missing entry nor a file can be where this resolution ends.
              have unfinished (found : tree.at? (name :: directory) = none ∨
                  ∃ content, tree.at? (name :: directory) = some (.file content))
                  (last : components ++ rest = []) :
                  destination ≠ .missing directory name ∧
                    destination ≠ .existing (name :: directory) := by
                obtain ⟨location, rfl, mode, inside⟩ :=
                  onward.resolve_left fun more => more (List.append_eq_nil_iff.mp last).2
                refine ⟨nofun, ?_⟩
                intro same
                cases same
                rcases found with none | ⟨content, file⟩
                · exact absurd (inside.symm.trans none) nofun
                · exact absurd (inside.symm.trans file) nofun
              by_cases closed : (intent = .create ∧ components ++ rest ≠ [] ∧
                  (components ++ rest).all (· = .blank)) ∨ tree.limits.nameBytes < name.length
              · obtain ⟨fault, refused⟩ := @walk_entry_refused tree intent links directory _ _ closed
                rw [refused] at walked
                cases walked
              · obtain ⟨open', short⟩ := not_or.mp closed
                rw [walk_entry open' short] at walked
                cases found : tree.at? (name :: directory) with
                | none =>
                    rw [found] at walked
                    simp only at walked
                    split at walked
                    next last => cases walked; exact absurd rfl (unfinished (Or.inl found) last).1
                    next => cases walked
                | some entry =>
                    rw [found] at walked
                    cases entry with
                    | directory mode =>
                        obtain ⟨left, reached, leads, later⟩ := ih walked
                        exact ⟨left, reached, .enter short found leads, later⟩
                    | file content =>
                        simp only at walked
                        split at walked
                        next last =>
                            cases walked
                            exact absurd rfl (unfinished (Or.inr ⟨content, found⟩) last).2
                        next => cases walked
                    | link target =>
                        cases links with
                        | zero => cases walked
                        | succ fewer =>
                            simp only [← List.append_assoc] at walked
                            obtain ⟨left, reached, leads, later⟩ :=
                              fewerLinks fewer (Nat.lt_succ_self fewer) walked
                            exact ⟨left, reached, .follow short found leads, later⟩

/-- An entry that components lead to is still led to, unless an entry on the way there is lost. -/
theorem walk_existing_or_lost {before after : FileTree} (lost : Location → Prop)
    (limits : after.limits = before.limits)
    (kept : ∀ location entry, before.at? location = some entry →
      lost location ∨ after.at? location = some entry)
    {components : List Component} {location : Location}
    (walked : before.walk .inspect links directory components = .ok (.existing location)) :
    after.walk .inspect links directory components = .ok (.existing location) ∨
      ∃ fewer place name rest, lost (name :: place) ∧
        before.walk .inspect fewer place (.entry name :: rest) = .ok (.existing location) := by
  induction links using Nat.strong_induction_on generalizing directory components with
  | _ links fewerLinks =>
      induction components generalizing directory with
      | nil => rw [walk_nil] at walked ⊢; exact Or.inl walked
      | cons component components ih =>
          cases component with
          | blank => rw [walk_blank] at walked ⊢; exact ih walked
          | here => rw [walk_here] at walked ⊢; exact ih walked
          | up => rw [walk_up] at walked ⊢; exact ih walked
          | entry name =>
              by_cases short : before.limits.nameBytes < name.length
              · obtain ⟨fault, refused⟩ :=
                  @walk_entry_refused before .inspect links directory components name (Or.inr short)
                rw [refused] at walked
                cases walked
              · have short' : ¬ after.limits.nameBytes < name.length := by rwa [limits]
                have passing := walked
                rw [walk_entry open_of_inspect short] at walked
                rw [walk_entry open_of_inspect short']
                cases found : before.at? (name :: directory) with
                | none =>
                    rw [found] at walked
                    simp only at walked
                    split at walked <;> cases walked
                | some entry =>
                    rw [found] at walked
                    rcases kept _ _ found with gone | still
                    · exact Or.inr ⟨links, directory, name, components, gone, passing⟩
                    · rw [still]
                      cases entry with
                      | directory mode => exact ih walked
                      | file content => exact Or.inl walked
                      | link target =>
                          cases links with
                          | zero => cases walked
                          | succ fewer => exact fewerLinks fewer (Nat.lt_succ_self fewer) walked

theorem walk_existing_mono {before after : FileTree} (limits : after.limits = before.limits)
    (kept : ∀ location entry, before.at? location = some entry → after.at? location = some entry)
    {components : List Component} {location : Location}
    (walked : before.walk .inspect links directory components = .ok (.existing location)) :
    after.walk .inspect links directory components = .ok (.existing location) := by
  have still := walk_existing_or_lost (fun _ => False) limits
    (fun location entry found => Or.inr (kept location entry found)) walked
  apply still.resolve_right
  rintro ⟨fewer, place, name, rest, impossible, -⟩
  exact impossible

/-! ### The last component of a path -/

theorem eq_of_splitLast {components before : List Component} {name : Name} {slash : Bool}
    (split : splitLast components = (before, .named name slash)) :
    ∃ blanks, components = before ++ .entry name :: blanks ∧
      (∀ component ∈ blanks, component = .blank) ∧ slash = decide (blanks ≠ []) := by
  have whole : components = (components.reverse.dropWhile (· = .blank)).reverse ++
      (components.reverse.takeWhile (· = .blank)).reverse := by
    rw [← List.reverse_append, List.takeWhile_append_dropWhile, List.reverse_reverse]
  have blank (component : Component)
      (member : component ∈ (components.reverse.takeWhile (· = .blank)).reverse) :
      component = .blank := by
    have kept := List.mem_takeWhile_imp (List.mem_reverse.mp member)
    exact of_decide_eq_true kept
  unfold splitLast at split
  cases kept : components.reverse.dropWhile (· = .blank) with
  | nil => rw [kept] at split; cases split
  | cons last outer =>
      rw [kept] at split whole
      cases last with
      | blank => cases split
      | here => cases split
      | up => cases split
      | entry other =>
          cases split
          refine ⟨(components.reverse.takeWhile (· = .blank)).reverse, ?_, blank, ?_⟩
          · rw [List.reverse_cons, List.append_assoc] at whole
            exact whole
          · apply decide_eq_decide.mpr
            constructor
            · intro final none
              rw [none, List.append_nil, List.reverse_cons] at whole
              rw [whole, List.getLast?_concat] at final
              cases final
            · intro some
              obtain ⟨front, last, ends⟩ := (List.eq_nil_or_concat _).resolve_left some
              rw [List.concat_eq_append] at ends
              rw [ends] at blank whole
              rw [whole, ← List.append_assoc, List.getLast?_concat,
                blank last (List.mem_append_right _ List.mem_cons_self)]

theorem splitLast_begins (components : List Component) :
    (splitLast components).1 <+: components := by
  have kept : (components.reverse.dropWhile (· = .blank)).reverse <+: components := by
    have ending : components.reverse.dropWhile (· = .blank) <:+ components.reverse :=
      List.dropWhile_suffix _
    rwa [← List.reverse_prefix, List.reverse_reverse] at ending
  unfold splitLast
  cases last : components.reverse.dropWhile (· = .blank) with
  | nil => exact List.nil_prefix
  | cons component outer =>
      rw [last, List.reverse_cons] at kept
      have front := (List.prefix_append outer.reverse [component]).trans kept
      cases component <;> exact front

theorem splitLast_append_entry (before : List Component) (name : Name) :
    splitLast (before ++ [.entry name]) = (before, .named name false) := by
  unfold splitLast
  have last : (before ++ [Component.entry name]).reverse.dropWhile (· = .blank) =
      .entry name :: before.reverse := by
    rw [List.reverse_append]
    rfl
  rw [last]
  simp

theorem resolveParent_eq_ok {path : Path} {parent : Location} {last : LastStep}
    (resolved : tree.resolveParent path = .ok (parent, last)) :
    tree.checkPath path = .ok () ∧ ∃ before, splitLast path.components = (before, last) ∧
      ∃ left, tree.Leads tree.limits.links (startOf tree.workingDirectory path) before left
        parent := by
  unfold resolveParent at resolved
  cases checked : tree.checkPath path with
  | error fault => rw [checked] at resolved; cases resolved
  | ok =>
      rw [checked] at resolved
      rcases split : splitLast path.components with ⟨before, final⟩
      simp only [split, Except.bind, bind] at resolved
      cases walked : tree.walk .inspect tree.limits.links (startOf tree.workingDirectory path)
          (before ++ [.here]) with
      | error fault => rw [walked] at resolved; cases resolved
      | ok destination =>
          rw [walked] at resolved
          obtain ⟨left, reached, leads, later⟩ := exists_leads_of_walk (Or.inl (by simp)) walked
          rw [walk_here, walk_nil] at later
          cases later
          cases resolved
          exact ⟨rfl, before, rfl, left, leads⟩

theorem resolveParent_of_leads {path : Path} {before : List Component} {last : LastStep}
    {left : Nat} {parent : Location} (checked : tree.checkPath path = .ok ())
    (split : splitLast path.components = (before, last))
    (leads : tree.Leads tree.limits.links (startOf tree.workingDirectory path) before left
      parent) :
    tree.resolveParent path = .ok (parent, last) := by
  have walked : tree.walk .inspect tree.limits.links (startOf tree.workingDirectory path)
      (before ++ [.here]) = .ok (.existing parent) := by
    rw [leads.inspect_append, walk_here, walk_nil]
  unfold resolveParent
  rw [checked]
  simp only [split, Except.bind, bind, walked]
  rfl

/-! ### What is found at a path -/

theorem checkPath_congr {before after : FileTree} (limits : after.limits = before.limits)
    (path : Path) : after.checkPath path = before.checkPath path := by
  unfold checkPath
  rw [limits]

theorem checkPath_of_beginning {path outer : Path} (begins : outer.bytes <+: path.bytes)
    (written : outer.isEmpty = false) (checked : tree.checkPath path = .ok ()) :
    tree.checkPath outer = .ok () := by
  obtain ⟨rest, whole⟩ := begins
  unfold checkPath at checked ⊢
  split at checked
  · cases checked
  next clean =>
      split at checked
      · cases checked
      · split at checked
        · cases checked
        next fits =>
            rw [Path.hasNul, ← whole, List.contains_eq_mem, decide_eq_true_eq] at clean
            rw [← whole, List.length_append] at fits
            have clean' : ¬ outer.hasNul = true := by
              rw [Path.hasNul, List.contains_eq_mem, decide_eq_true_eq]
              exact fun member => clean (List.mem_append_left rest member)
            have fits' : ¬ tree.limits.pathBytes < outer.bytes.length := by omega
            rw [if_neg clean', written, if_neg (by decide), if_neg fits']

theorem find?_eq_ok_iff {path : Path} {location : Location} {entry : Entry} :
    tree.find? path = .ok (location, entry) ↔
      tree.checkPath path = .ok () ∧
        tree.walk .inspect tree.limits.links (startOf tree.workingDirectory path)
          path.components = .ok (.existing location) ∧
        tree.at? location = some entry := by
  unfold find? resolve
  cases checked : tree.checkPath path with
  | error fault => simp [bind, Except.bind]
  | ok =>
      cases walked : tree.walk .inspect tree.limits.links (startOf tree.workingDirectory path)
          path.components with
      | error fault => simp [bind, Except.bind]
      | ok destination =>
          cases destination with
          | missing directory name => simp [bind, Except.bind, throw, throwThe,
              MonadExceptOf.throw]
          | existing place =>
              cases found : tree.at? place with
              | none =>
                  simp only [bind, Except.bind, found]
                  constructor
                  · intro impossible
                    cases impossible
                  · rintro ⟨-, same, other⟩
                    cases same
                    rw [found] at other
                    cases other
              | some present =>
                  simp only [bind, Except.bind, found]
                  constructor
                  · intro same
                    cases same
                    exact ⟨trivial, rfl, found⟩
                  · rintro ⟨-, same, other⟩
                    cases same
                    rw [found] at other
                    cases other
                    rfl

theorem find?_directory_iff {path : Path} {location : Location} {mode : UInt32} :
    tree.find? path = .ok (location, .directory mode) ↔
      tree.checkPath path = .ok () ∧ tree.at? location = some (.directory mode) ∧
        ∃ left, tree.Leads tree.limits.links (startOf tree.workingDirectory path)
          path.components left location := by
  rw [find?_eq_ok_iff]
  constructor
  · rintro ⟨checked, walked, found⟩
    refine ⟨checked, found, ?_⟩
    rw [← List.append_nil path.components] at walked
    obtain ⟨left, reached, leads, later⟩ :=
      exists_leads_of_walk (Or.inr ⟨location, rfl, mode, found⟩) walked
    rw [walk_nil] at later
    cases later
    exact ⟨left, leads⟩
  · rintro ⟨checked, found, left, leads⟩
    exact ⟨checked, leads.walk_eq, found⟩

theorem isDirectory_iff {path : Path} :
    tree.isDirectory path = true ↔
      ∃ location mode, tree.find? path = .ok (location, .directory mode) := by
  unfold isDirectory
  constructor
  · intro holds
    split at holds
    next location mode found => exact ⟨location, mode, found⟩
    next => cases holds
  · rintro ⟨location, mode, found⟩
    rw [found]

theorem isFile_iff {path : Path} :
    tree.isFile path = true ↔ ∃ location content, tree.find? path = .ok (location, .file content) := by
  unfold isFile
  constructor
  · intro holds
    split at holds
    next location content found => exact ⟨location, content, found⟩
    next => cases holds
  · rintro ⟨location, content, found⟩
    rw [found]

theorem exists?_eq_false_of_missing {path : Path} {before blanks : List Component} {name : Name}
    {left : Nat} {parent : Location} (divided : path.components = before ++ .entry name :: blanks)
    (leads : tree.Leads tree.limits.links (startOf tree.workingDirectory path) before left parent)
    (missing : tree.at? (name :: parent) = none) : tree.exists? path = false := by
  unfold exists?
  cases found : tree.find? path with
  | error fault => rfl
  | ok pair =>
      obtain ⟨location, entry⟩ := pair
      obtain ⟨-, walked, -⟩ := find?_eq_ok_iff.mp found
      rw [divided, leads.inspect_append] at walked
      by_cases short : tree.limits.nameBytes < name.length
      · obtain ⟨fault, refused⟩ :=
          @walk_entry_refused tree .inspect left parent blanks name (Or.inr short)
        rw [refused] at walked
        cases walked
      · rw [walk_entry open_of_inspect short, missing] at walked
        simp only at walked
        split at walked <;> cases walked

theorem find?_mono {before after : FileTree} (limits : after.limits = before.limits)
    (place : after.workingDirectory = before.workingDirectory)
    (kept : ∀ location entry, before.at? location = some entry → after.at? location = some entry)
    {path : Path} {location : Location} {entry : Entry}
    (found : before.find? path = .ok (location, entry)) :
    after.find? path = .ok (location, entry) := by
  rw [find?_eq_ok_iff] at found ⊢
  obtain ⟨checked, walked, present⟩ := found
  rw [checkPath_congr limits, limits, place]
  refine ⟨checked, ?_, kept location entry present⟩
  exact walk_existing_mono limits kept walked

/-! ### What a path reads as -/

theorem exists?_of_readText {path : Path} {text : String}
    (reads : tree.readText path = .ok text) : tree.exists? path = true := by
  unfold exists?
  cases found : tree.find? path with
  | ok pair => rfl
  | error fault =>
      rw [readText, readBytes, found] at reads
      cases reads

theorem readText_of_readBytes {path : Path} {text : String}
    (reads : tree.readBytes path = .ok text.toUTF8) : tree.readText path = .ok text := by
  have decoded : String.fromUTF8? text.toUTF8 = some text := dif_pos text.isValidUTF8
  rw [readText, reads]
  simp only [bind, Except.bind, decoded]
  rfl

theorem readText_of_find? {path : Path} {location : Location} {text : String}
    (found : tree.find? path = .ok (location, .file text.toUTF8)) :
    tree.readText path = .ok text := by
  apply readText_of_readBytes
  rw [readBytes, found]
  rfl

theorem readText_of_kept {before after : FileTree} {path : Path} {text : String}
    (kept : ∀ location entry, before.find? path = .ok (location, entry) →
      after.find? path = .ok (location, entry))
    (reads : before.readText path = .ok text) : after.readText path = .ok text := by
  cases found : before.find? path with
  | error fault =>
      rw [readText, readBytes, found] at reads
      cases reads
  | ok pair =>
      rw [readText, readBytes, found] at reads
      rw [readText, readBytes, kept pair.1 pair.2 found]
      exact reads

end Scaffold.FileTree
