import Scaffold.Proofs.FileTree.Replacing
import Scaffold.Proofs.Path.Names

/-! When replacing what is at a path succeeds.

The temporary file is made unless its path or its name is too long, and it takes the content unless
that is too large; then all depends on the place that it is moved to. `receives` says what stands in the way there, without regard to the file that is
moved. Main statement: `result_replaceWhole`, from which follows that a path that ends at a file can
be written over (`replaceWhole_over`). -/

set_option autoImplicit false

namespace Scaffold.FileTree

variable {tree : FileTree} {path aside : Path} {name temporary again : Name}
  {place directory : Location} {content : ByteArray} {left : Nat} {before : List Component}
  {entry : Entry}

/-- Whether a file that is elsewhere can be moved to a path. -/
def receives (tree : FileTree) (path : Path) : Except Fault Unit := do
  match ← tree.resolveParent path with
  | (_, .special) => throw .busy
  | (parent, .named name slashFollows) =>
      if tree.limits.nameBytes < name.length then throw .nameTooLong
      if slashFollows then throw .notADirectory
      if (tree.at? (name :: parent)).any Entry.isDirectory then throw .isADirectory

theorem receives_of_endsAt (ends : tree.EndsAt path directory name)
    (free : ¬ tree.IsDirectory (name :: directory)) : tree.receives path = .ok () := by
  have plain : ¬ (tree.at? (name :: directory)).any Entry.isDirectory = true := by
    intro taken
    cases found : tree.at? (name :: directory) with
    | none =>
        rw [found] at taken
        cases taken
    | some entry =>
        rw [found] at taken
        cases entry with
        | directory mode => exact free ⟨mode, found⟩
        | file _ => cases taken
        | link _ => cases taken
  rw [receives, ends.resolveParent_eq]
  simp only [bind, Except.bind]
  rw [if_neg ends.short, if_neg plain]
  rfl

theorem rename?_of_endsAt (start : tree.EndsAt aside place temporary)
    (found : tree.at? (temporary :: place) = some entry) (path : Path) :
    (tree.rename? aside path).map (fun _ => ()) = tree.receives path := by
  unfold rename? receives
  rw [start.resolveParent_eq]
  cases resolved : tree.resolveParent path with
  | error fault => rfl
  | ok pair =>
      obtain ⟨parent, last⟩ := pair
      cases last with
      | special => rfl
      | named name slash =>
          simp only [bind, Except.bind]
          rw [if_neg start.short]
          simp only [pure, Except.pure, found]
          by_cases long : tree.limits.nameBytes < name.length
          · rw [if_pos long, if_pos long]
            rfl
          · rw [if_neg long, if_neg long]
            cases slash with
            | true => rfl
            | false =>
                cases (tree.at? (name :: parent)).any Entry.isDirectory with
                | true => rfl
                | false => rfl

theorem walk_entry_long (long : tree.limits.nameBytes < name.length) :
    tree.walk .create left place [.entry name] = .error .nameTooLong := by
  have open' : ¬ (Intent.create = .create ∧ ([] : List Component) ≠ [] ∧
      ([] : List Component).all (· = .blank)) := fun closed => closed.2.1 rfl
  cases left <;> rw [walk, walkWith, if_neg open', if_pos long]

theorem createFile?_of_leads (absent : tree.at? (temporary :: place) = none)
    (divided : aside.components = before ++ [.entry temporary])
    (leads : tree.Leads tree.limits.links (startOf tree.workingDirectory aside) before left place) :
    tree.createFile? aside = (do
      tree.checkPath aside
      if tree.limits.nameBytes < temporary.length then throw .nameTooLong
      return (temporary :: place, .createFile (temporary :: place))) := by
  have last : tree.walk .create tree.limits.links (startOf tree.workingDirectory aside)
      (before ++ [.entry temporary]) = tree.walk .create left place [.entry temporary] :=
    leads.walk_append fun _ => rfl
  rw [← divided] at last
  unfold createFile? resolve
  cases tree.checkPath aside with
  | error fault => rfl
  | ok _ =>
      simp only [bind, Except.bind]
      rw [last]
      by_cases long : tree.limits.nameBytes < temporary.length
      · rw [walk_entry_long long, if_pos long]
        rfl
      · have open' : ¬ (Intent.create = .create ∧ ([] : List Component) ≠ [] ∧
            ([] : List Component).all (· = .blank)) := fun closed => closed.2.1 rfl
        rw [walk_entry open' long, absent, if_neg long]
        rfl

/-! ### Another temporary name -/

/-- Beside a path, names of one length do equally well. -/
theorem checkPath_beside (proper : Path.IsName temporary) (proper' : Path.IsName again)
    (same : again.length = temporary.length) (clean : 0 ∉ temporary) (clean' : 0 ∉ again) :
    tree.checkPath (path.withFileName again) = tree.checkPath (path.withFileName temporary) := by
  obtain ⟨front, bytes⟩ := path.exists_bytes_withFileName
  have written {name : Name} (proper : Path.IsName name) :
      (path.withFileName name).isEmpty = false := by
    rw [Path.isEmpty, bytes name proper]
    cases name with
    | nil => cases proper.entry
    | cons byte rest => simp
  have nul {name : Name} (proper : Path.IsName name) (clean : 0 ∉ name) :
      (path.withFileName name).hasNul = front.contains 0 := by
    rw [Path.hasNul, bytes name proper]
    simp [clean]
  have length {name : Name} (proper : Path.IsName name) :
      (path.withFileName name).bytes.length = front.length + name.length := by
    rw [bytes name proper, List.length_append]
  unfold checkPath
  rw [written proper, written proper', nul proper clean, nul proper' clean', length proper,
    length proper', same]

theorem clean_of_checkPath (proper : Path.IsName temporary)
    (checked : tree.checkPath (path.withFileName temporary) = .ok ()) : 0 ∉ temporary := by
  obtain ⟨front, bytes⟩ := path.exists_bytes_withFileName
  intro member
  have nul : (path.withFileName temporary).hasNul = true := by
    rw [Path.hasNul, bytes temporary proper, List.contains_iff_mem]
    exact List.mem_append_right front member
  rw [checkPath, if_pos nul] at checked
  cases checked

theorem EndsAt.exists_beside (ends : tree.EndsAt path directory name)
    (proper : Path.IsName again) :
    ∃ before left, (path.withFileName again).components = before ++ [.entry again] ∧
      tree.Leads tree.limits.links (startOf tree.workingDirectory (path.withFileName again)) before
        left directory := by
  obtain ⟨front, left, steps, leads⟩ := ends.steps_eq
  obtain ⟨absolute, before, divided, idle⟩ := Path.withFileName_beside proper steps
  refine ⟨before, left, divided, ?_⟩
  unfold startOf at leads ⊢
  rw [absolute]
  exact leads.of_same_steps idle

/-! ### The result of replacing -/

theorem result_replaceWhole_of_refused {world : World} {fault : Fault}
    (unused : world.tree.IsUnused temporary)
    (divided : (path.withFileName temporary).components = before ++ [.entry temporary])
    (refused : world.tree.createFile? (path.withFileName temporary) = .error fault) :
    (Action.runIn world (replaceWhole temporary path content)).1 = .error fault := by
  rw [replaceWhole, Action.runIn_tryCatch, Action.runIn_bind, runIn_writeWhole_of_error refused]
  simp only
  rw [Action.runIn_bind_of_ok (runIn_discard_of_unused unused divided)]
  rfl

/-- The result is decided by the length of the path and the name of the temporary file and by the size
of the content, and then by what is at the path while that file stands beside it. -/
theorem result_replaceWhole {world : World} {answer : Except Fault Unit}
    (unused : world.tree.IsUnused temporary)
    (divided : (path.withFileName temporary).components = before ++ [.entry temporary])
    (leads : world.tree.Leads world.tree.limits.links
      (startOf world.tree.workingDirectory (path.withFileName temporary)) before left place)
    (moves : ∀ midway, Written world.tree midway (temporary :: place) content →
      midway.receives path = answer) :
    (Action.runIn world (replaceWhole temporary path content)).1 = (do
      world.tree.checkPath (path.withFileName temporary)
      if world.tree.limits.nameBytes < temporary.length then throw .nameTooLong
      if world.tree.limits.holds content = false then throw .fileTooLarge
      answer) := by
  have made := createFile?_of_leads (unused.absent place) divided leads
  cases checked : world.tree.checkPath (path.withFileName temporary) with
  | error fault =>
      rw [checked] at made
      exact result_replaceWhole_of_refused unused divided made
  | ok _ =>
      rw [checked] at made
      by_cases long : world.tree.limits.nameBytes < temporary.length
      · simp only [bind, Except.bind, if_pos long] at made ⊢
        exact result_replaceWhole_of_refused unused divided made
      · simp only [bind, Except.bind, if_neg long] at made
        have beside : world.tree.EndsAt (path.withFileName temporary) place temporary :=
          ⟨checked, long, before, left, divided, leads⟩
        obtain ⟨midway, ran, -, written, start, next, discarded, -⟩ :=
          exists_filled_beside content unused beside made
        rw [replaceWhole, Action.runIn_tryCatch, Action.runIn_bind, ran, if_neg long]
        cases held : world.tree.limits.holds content with
        | false =>
            rw [if_neg (by decide)]
            simp only
            rw [Action.runIn_bind_of_ok discarded]
            rfl
        | true =>
            rw [Limits.part_of_holds held] at written
            have moved := rename?_of_endsAt start written.at?_self path
            rw [moves midway.tree written] at moved
            rw [if_pos rfl]
            simp only
            rw [renameFile, Action.runIn_tree_bind]
            cases renamed : midway.tree.rename? (path.withFileName temporary) path with
            | ok step =>
                rw [renamed] at moved
                exact moved
            | error fault =>
                rw [renamed] at moved
                rw [Action.ofExcept, Action.runIn_bind]
                simp only [Action.runIn_throw]
                rw [Action.runIn_bind_of_ok discarded]
                exact moved

theorem replaceWhole_over {world : World} (unused : world.tree.IsUnused temporary)
    (ends : world.tree.EndsAt path directory name)
    (free : ¬ world.tree.IsDirectory (name :: directory))
    (checked : world.tree.checkPath (path.withFileName temporary) = .ok ())
    (short : ¬ world.tree.limits.nameBytes < temporary.length)
    (held : world.tree.limits.holds content = true) :
    ∃ next, Action.runIn world (replaceWhole temporary path content) = (.ok (), next) ∧
      Written world.tree next.tree (name :: directory) content := by
  obtain ⟨before, left, divided, leads⟩ := ends.exists_beside unused.proper
  have done : (Action.runIn world (replaceWhole temporary path content)).1 = .ok () := by
    have moves (midway : FileTree)
        (written : Written world.tree midway (temporary :: directory) content) :
        midway.receives path = .ok () := by
      have absent := unused.absent directory
      refine receives_of_endsAt (ends.mono written.limits_eq written.workingDirectory_eq
        fun location entry _ => written.kept_of_missing absent) ?_
      intro inside
      obtain ⟨mode, there⟩ := inside
      have same : midway.at? (name :: directory) = some (.directory mode) := there
      rw [written.at?_eq] at same
      split at same
      · cases same
      · exact free ⟨mode, same⟩
    rw [result_replaceWhole unused divided leads moves, checked, held]
    exact if_neg short
  rcases replaceWhole_cases world path content unused with
    ⟨next, ran, -, other, place, again, -, written⟩ | ⟨cause, next, ran, -⟩
  · obtain ⟨rfl, rfl⟩ := ends.unique again
    exact ⟨next, ran, written⟩
  · rw [ran] at done
    cases done

end Scaffold.FileTree
