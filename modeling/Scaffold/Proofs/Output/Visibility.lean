import Scaffold.Proofs.FileTree.Passing
import Scaffold.Proofs.Output.Contract

/-! What can be seen while a file is written.

The steps of a write make directories, and then fill a temporary file and move or remove it
(`write_filling`). A write can be cut short between two steps or in the middle of filling
(`Partway`). The temporary file is nothing that the path leads to, so until it is moved the path
reads as before: `write_shows_old_or_new`. -/

set_option autoImplicit false

namespace Scaffold

open FileTree

variable {policy : WritePolicy} {path : Path} {content : String} {temporary : Name} {world : World}

/-! ### Sequences of steps cut short -/

/-- What is done of a sequence of steps when it is cut short: some first steps, and perhaps a part of
what the next one appends to a file. -/
inductive Partway : List Step → List Step → Prop
  | stop {steps : List Step} : Partway steps []
  | part {location : Location} {front back : ByteArray} {steps : List Step} :
      Partway (.append location (front ++ back) :: steps) [.append location front]
  | step {step : Step} {steps done : List Step} :
      Partway steps done → Partway (step :: steps) (step :: done)

theorem partway_append {first second done : List Step} (partway : Partway (first ++ second) done) :
    Partway first done ∨ ∃ later, done = first ++ later ∧ Partway second later := by
  induction first generalizing done with
  | nil => exact Or.inr ⟨done, rfl, partway⟩
  | cons step first ih =>
      cases partway with
      | stop => exact Or.inl .stop
      | part => exact Or.inl .part
      | step partway =>
          rcases ih partway with early | ⟨later, rfl, late⟩
          · exact Or.inl (.step early)
          · exact Or.inr ⟨later, rfl, late⟩

/-- Cutting short leaves out steps and makes appends shorter. -/
theorem makesDirectory_of_partway {steps done : List Step} {answer : Bool}
    (same : ∀ step ∈ steps, step.makesDirectory = answer) (partway : Partway steps done) :
    ∀ step ∈ done, step.makesDirectory = answer := by
  induction partway with
  | stop => exact nofun
  | @part location front back _ =>
      intro step member
      rw [List.mem_singleton.mp member]
      exact same (.append location (front ++ back)) List.mem_cons_self
  | step _ ih =>
      obtain ⟨first, further⟩ := List.forall_mem_cons.mp same
      exact List.forall_mem_cons.mpr ⟨first, ih further⟩

/-- A write of a new file cut short: nothing is there, or a part of the content, or all is done. -/
theorem partway_filling {location : Location} {content : ByteArray} {last : Step}
    {done : List Step}
    (partway : Partway [.createFile location, .append location content, last] done)
    (unfilled : ∀ place bytes, last ≠ .append place bytes) :
    done = [] ∨ done = [.createFile location] ∨
      (∃ bytes, done = [.createFile location, .append location bytes]) ∨
      done = [.createFile location, .append location content, last] := by
  cases partway with
  | stop => exact Or.inl rfl
  | step partway =>
      right
      cases partway with
      | stop => exact Or.inl rfl
      | part => exact Or.inr (Or.inl ⟨_, rfl⟩)
      | step partway =>
          right
          cases partway with
          | stop => exact Or.inl ⟨_, rfl⟩
          | part => exact absurd rfl (unfilled _ _)
          | step partway =>
              cases partway
              exact Or.inr rfl

/-! ### While the file is put in place -/

theorem alikeBeside_of_partway {tree : FileTree} {place : Location} {bytes : ByteArray}
    {last : Step} {done : List Step} (fresh : tree.IsFresh temporary)
    (beside : tree.EndsAt (path.withFileName temporary) place temporary)
    (partway : Partway
      [.createFile (temporary :: place), .append (temporary :: place) bytes, last] done)
    (unfilled : ∀ place bytes, last ≠ .append place bytes) :
    AlikeBeside temporary tree (tree.applyAll done) ∨
      done = [.createFile (temporary :: place), .append (temporary :: place) bytes, last] := by
  rcases partway_filling partway unfilled with rfl | rfl | ⟨front, rfl⟩ | whole
  · exact Or.inl ((Alike.refl tree).alikeBeside temporary)
  · left
    refine ⟨(applyAll_frame _ _).1, (applyAll_frame _ _).2, ?_⟩
    intro location other
    have created := at?_createFile beside.isDirectory
      (not_isDirectory_of_none (fresh.absent place)) location
    refine created.trans (if_neg ?_)
    rintro rfl
    exact other rfl
  · exact Or.inl (written_of_unused fresh.toIsUnused beside front).alikeBeside
  · exact Or.inr whole

theorem FileTree.Filling.readBytes_cases {tree : FileTree} {bytes : ByteArray}
    {result : Except Fault Unit} {steps done : List Step}
    (filling : Filling temporary path bytes tree result steps) (fresh : tree.IsFresh temporary)
    (unmentioned : temporary ∉ path.segments) (partway : Partway steps done) :
    ((tree.applyAll done).readBytes path).toOption = (tree.readBytes path).toOption ∨
      (tree.applyAll done).readBytes path = .ok bytes := by
  have unseen (alike : AlikeBeside temporary tree (tree.applyAll done)) :
      ((tree.applyAll done).readBytes path).toOption = (tree.readBytes path).toOption :=
    congrArg Except.toOption (alike.readBytes_eq fresh unmentioned)
  cases filling with
  | refused =>
      cases partway
      exact Or.inl rfl
  | @abandoned _ place beside =>
      left
      rcases alikeBeside_of_partway fresh beside partway nofun with alike | rfl
      · exact unseen alike
      · exact unseen (((written_of_unused fresh.toIsUnused beside _).alike_of_removed
          (fresh.absent place)).alikeBeside temporary)
  | put _ beside ends free same written =>
      subst same
      rcases alikeBeside_of_partway fresh beside partway nofun with alike | rfl
      · exact Or.inl (unseen alike)
      · exact written.readBytes_cases ends free

theorem FileTree.Filling.makesDirectory_eq {tree : FileTree} {bytes : ByteArray}
    {result : Except Fault Unit} {steps : List Step}
    (filling : Filling temporary path bytes tree result steps) :
    ∀ step ∈ steps, step.makesDirectory = false := by
  cases filling with
  | refused => exact nofun
  | abandoned => simp [Step.makesDirectory]
  | put _ _ _ _ same _ =>
      subst same
      simp [Step.makesDirectory]

/-! ### The whole write -/

namespace FileTree

theorem IsFresh.grown {mode : UInt32} {before after : FileTree}
    (grown : Grown mode (·.Around path) before after) (fresh : before.IsFresh temporary)
    (unmentioned : temporary ∉ path.segments) : after.IsFresh temporary where
  toIsUnused := fresh.toIsUnused.grown grown unmentioned
  unlinked := by
    intro location target linked
    have free : ¬ after.IsDirectory location := not_isDirectory_of_leaf linked rfl
    exact fresh.unlinked location target ((grown.at?_eq_of_free free).symm.trans linked)

theorem readText_applyAll {tree : FileTree} {steps : List Step}
    (make : ∀ step ∈ steps, step.makesDirectory = true) (text : String)
    (reads : tree.readText path = .ok text) : (tree.applyAll steps).readText path = .ok text := by
  obtain ⟨limits, place⟩ := applyAll_frame tree steps
  apply readText_of_kept _ reads
  intro location entry
  exact find?_mono limits place fun _ _ => at?_applyAll_of_makesDirectory make

theorem readText_toOption (tree : FileTree) (path : Path) :
    (tree.readText path).toOption =
      (tree.readBytes path).toOption.bind fun bytes => String.fromUTF8? bytes := by
  rw [readText]
  cases tree.readBytes path with
  | error fault => rfl
  | ok bytes =>
      simp only [bind, Except.bind, Except.toOption, Option.bind]
      cases String.fromUTF8? bytes with
      | none => rfl
      | some text => rfl

end FileTree

/-- A path reads as it would without the new file, or as the new content; and what could be read in
the first place is one of the two. -/
structure ShowsOldOrNew (path : Path) (content : String) (before bare seen : FileTree) : Prop where
  bytes : (seen.readBytes path).toOption = (bare.readBytes path).toOption ∨
    seen.readBytes path = .ok content.toUTF8
  text : (seen.readText path).toOption = (bare.readText path).toOption ∨
    seen.readText path = .ok content
  readable : ∀ text, before.readText path = .ok text →
    seen.readText path = .ok text ∨ seen.readText path = .ok content

theorem ShowsOldOrNew.of_bytes {before bare seen : FileTree}
    (kept : ∀ text, before.readText path = .ok text → bare.readText path = .ok text)
    (bytes : (seen.readBytes path).toOption = (bare.readBytes path).toOption ∨
      seen.readBytes path = .ok content.toUTF8) :
    ShowsOldOrNew path content before bare seen := by
  have text : (seen.readText path).toOption = (bare.readText path).toOption ∨
      seen.readText path = .ok content := by
    apply bytes.imp _ readText_of_readBytes
    intro same
    rw [readText_toOption, readText_toOption, same]
  refine ⟨bytes, text, ?_⟩
  intro old reads
  apply text.imp_left
  intro same
  rw [kept old reads] at same
  cases seen' : seen.readText path with
  | error fault =>
      rw [seen'] at same
      cases same
  | ok other =>
      rw [seen'] at same
      cases same
      rfl

namespace WritePolicy

/-- The steps of a write make directories around the path, and then put the file in place. -/
theorem write_filling (policy : WritePolicy) (content : String) (fresh : world.tree.IsFresh temporary)
    (unmentioned : temporary ∉ path.segments) :
    ∃ made filled,
      world.Took (Action.runIn world (policy.write temporary path content)).2 (made ++ filled) ∧
        (∀ step ∈ made, step.makesDirectory = true) ∧
        (filled = [] ∨ (world.tree.applyAll made).IsFresh temporary ∧
          ∃ result, Filling temporary path content.toUTF8 (world.tree.applyAll made) result
            filled) := by
  rw [runIn_write]
  split
  · exact ⟨[], [], .refl world, nofun, Or.inl rfl⟩
  · obtain ⟨made, took, make⟩ := prepareAround_took policy path world
    have grown := (prepareAround_grown policy path world).1
    rcases ran : Action.runIn world (policy.prepareAround path) with ⟨result, prepared⟩
    rw [ran] at took grown
    cases result with
    | error cause => exact ⟨made, [], took.trans (.refl prepared), make, Or.inl rfl⟩
    | ok _ =>
        have still := fresh.grown grown unmentioned
        obtain ⟨filled, further, filling⟩ :=
          replaceWhole_filling prepared path content.toUTF8 still.toIsUnused
        rw [took.tree_eq] at still filling
        refine ⟨made, filled, took.trans ?_, make, Or.inr ⟨still, _, filling⟩⟩
        simp only
        rw [runIn_put]
        rcases replaced : Action.runIn prepared
          (replaceWhole temporary path content.toUTF8) with ⟨result, next⟩
        rw [replaced] at further
        cases result with
        | ok _ => exact further.of_same rfl rfl
        | error fault => exact further

/-- At every point of a write, the path reads as it would with only the directories made so far, or
as the whole new content. -/
theorem write_shows_old_or_new (policy : WritePolicy) (temporary : Name) (path : Path)
    (content : String) (world : World) (fresh : world.tree.IsFresh temporary)
    (unmentioned : temporary ∉ path.segments) :
    ∃ steps,
      world.Took (Action.runIn world (policy.write temporary path content)).2 steps ∧
        ∀ done, Partway steps done →
          ShowsOldOrNew path content world.tree
            (world.tree.applyAll (done.filter Step.makesDirectory)) (world.tree.applyAll done) := by
  obtain ⟨made, filled, took, make, filling⟩ := write_filling policy content fresh unmentioned
  refine ⟨_, took, ?_⟩
  intro done partway
  rcases partway_append partway with early | ⟨later, rfl, late⟩
  · have only := makesDirectory_of_partway make early
    rw [List.filter_eq_self.mpr only]
    exact .of_bytes (readText_applyAll only) (Or.inl rfl)
  · have whole : made.filter Step.makesDirectory = made := List.filter_eq_self.mpr make
    rcases filling with rfl | ⟨still, result, filling⟩
    · cases late
      rw [List.append_nil, whole]
      exact .of_bytes (readText_applyAll make) (Or.inl rfl)
    · have none : later.filter Step.makesDirectory = [] := by
        rw [List.filter_eq_nil_iff]
        intro step member
        rw [makesDirectory_of_partway filling.makesDirectory_eq late step member]
        exact nofun
      rw [List.filter_append, whole, none, List.append_nil, applyAll_append]
      exact .of_bytes (readText_applyAll make) (filling.readBytes_cases still unmentioned late)

/-- The link `l` reads as the old text of `f` until the new file takes its place. -/
theorem write_over_link_shows_old_or_new :
    linkedWorld.tree.IsFresh (Text.encode ".tmp-0") ∧
      Text.encode ".tmp-0" ∉ (Path.ofString "l").segments ∧
      ∃ steps,
        linkedWorld.Took (Action.runIn linkedWorld (({ mayReplace := true } : WritePolicy).write
            (Text.encode ".tmp-0") (Path.ofString "l") "new")).2 steps ∧
          steps.length = 3 ∧
          ∀ done, Partway steps done →
            (linkedWorld.tree.applyAll done).readText (Path.ofString "l") = .ok "old" ∨
              (linkedWorld.tree.applyAll done).readText (Path.ofString "l") = .ok "new" := by
  have fresh : linkedWorld.tree.IsFresh (Text.encode ".tmp-0") :=
    isFresh_of_not_mem_usedNames (by decide) (by decide +kernel)
  have unmentioned : Text.encode ".tmp-0" ∉ (Path.ofString "l").segments := by decide
  have old : linkedWorld.tree.readText (Path.ofString "l") = .ok "old" := by decide +kernel
  have three : (Action.runIn linkedWorld (({ mayReplace := true } : WritePolicy).write
      (Text.encode ".tmp-0") (Path.ofString "l") "new")).2.journal.length = 3 := by
    decide +kernel
  obtain ⟨steps, took, shows⟩ := write_shows_old_or_new { mayReplace := true } _ _ "new" _ fresh
    unmentioned
  rw [took.journal_eq] at three
  exact ⟨fresh, unmentioned, steps, took, three,
    fun done partway => (shows done partway).readable "old" old⟩

end WritePolicy

end Scaffold
