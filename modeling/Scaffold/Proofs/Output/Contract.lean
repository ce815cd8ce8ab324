import Scaffold.Proofs.Output.Outcomes

/-! What writes promise.

A write that succeeds has one effect beyond new directories around its path (`write_effect`), and one
that fails leaves every file and link as it was (`write_and_writeNew_fail_cleanly`). A write that may
not replace anything looks only at what its path leads to at first: `changed_iff_overwrites` says
which entries it replaces nevertheless. -/

set_option autoImplicit false

namespace Scaffold.WritePolicy

open FileTree

variable {policy : WritePolicy} {path : Path} {content : String} {temporary : Name}
  {world next : World}

/-! ### Success -/

/-- The effect of a write: directories are made, and then a file is put where the path lands. -/
structure Effect (policy : WritePolicy) (temporary : Name) (path : Path) (content : String)
    (before prepared after : FileTree) (destination : Location) : Prop where
  grown : Grown policy.directoryMode (·.Around path) before prepared
  lands : prepared.landing? path = some destination
  unmade : prepared.at? destination = before.at? destination
  free : ¬ before.IsDirectory destination
  written : Written prepared after destination content.toUTF8
  /-- A link is replaced, and the file that it stood for stays as it was. -/
  spared : ∀ target place bytes, before.at? destination = some (.link target) →
    before.find? path = .ok (place, .file bytes) → after.at? place = some (.file bytes)
  /-- Where no link stood the path reads as the content. -/
  reads : (∀ target, before.at? destination ≠ some (.link target)) →
    after.readBytes path = .ok content.toUTF8
  /-- Of the bits that can be asked for, a new directory has those of the policy. It has no other bit
  but the set-group-ID bit, and that one from the directory it is made in. -/
  modes : ∀ location mode, before.at? location = none →
    after.at? location = some (.directory mode) →
      mode &&& directoryModeMask = policy.directoryMode &&& directoryModeMask ∧
        mode = policy.directoryMode &&& directoryModeMask ||| before.groupBit location
  absent : ∀ directory, after.at? (temporary :: directory) = none

theorem Effect.of_written {before prepared after : FileTree} {directory : Location} {name : Name}
    (grown : Grown policy.directoryMode (·.Around path) before prepared)
    (unused : prepared.IsUnused temporary) (unmentioned : temporary ∉ path.segments)
    (ends : prepared.EndsAt path directory name) (free : ¬ prepared.IsDirectory (name :: directory))
    (written : Written prepared after (name :: directory) content.toUTF8) :
    Effect policy temporary path content before prepared after (name :: directory) := by
  have unmade := grown.at?_eq_of_free free
  refine ⟨grown, ends.landing?_eq, unmade, ?_, written, ?_, ?_, ?_, ?_⟩
  · rintro ⟨mode, inside⟩
    exact free ⟨mode, grown.kept _ _ inside⟩
  · intro target place bytes linked found
    have present := (find?_eq_ok_iff.mp (grown.find?_mono found)).2.2
    have apart : place ≠ name :: directory := by
      rintro rfl
      rw [unmade, linked] at present
      cases present
    rw [written.at?_eq, if_neg apart, present]
  · intro plain
    have still := ends.mono written.limits_eq written.workingDirectory_eq fun location entry =>
      written.kept_of_plain free fun target linked => plain target (unmade.symm.trans linked)
    rw [readBytes, still.find?_eq written.at?_self]
    rfl
  · intro location mode missing found
    have same := written.at?_eq location
    rw [found] at same
    split at same
    · cases same
    · obtain ⟨made, -⟩ := grown.added location _ missing same.symm
      cases made
      exact ⟨(newMode_and before policy.directoryMode location).1, rfl⟩
  · intro place
    have apart : temporary :: place ≠ name :: directory := by
      intro same
      cases same
      exact unmentioned (Path.mem_segments_of_steps ends.entry_mem_steps)
    rw [written.at?_eq, if_neg apart, unused.absent]

/-- A working directory with a file `f` and a link `l` to it. -/
def linkedWorld : World :=
  World.ofTree ((FileTree.fresh.place [Text.encode "f", Text.encode "w"] (.file "old".toUTF8)).place
    [Text.encode "l", Text.encode "w"] (.link (Path.ofString "f")))

theorem linkedWorld_unused : linkedWorld.tree.IsUnused (Text.encode ".tmp-0") :=
  isUnused_of_not_mem_usedNames ⟨by decide, by decide⟩ (by decide +kernel)

/-- What is left of a write that fails. -/
structure FailsCleanly (policy : WritePolicy) (temporary : Name) (path : Path) (before : FileTree)
    (cause : Failure) (after : FileTree) : Prop where
  named : cause = .destinationExists path ∨
    (∃ parent fault, path.parent? = some parent ∧ cause = .directoryNotCreated parent fault) ∨
    ∃ fault, cause = .notWritten path fault
  untouched : cause = .destinationExists path → after = before
  grown : Grown policy.directoryMode (·.Around path) before after
  leaves_eq : ∀ location entry, entry.isDirectory = false →
    (after.at? location = some entry ↔ before.at? location = some entry)
  hollow : ∀ directory name entry, before.at? directory = none →
    after.at? (name :: directory) = some entry → entry.isDirectory = true
  absent : ∀ directory, after.at? (temporary :: directory) = none

theorem FailsCleanly.of_grown {before after : FileTree} {cause : Failure}
    (named : (∃ parent fault, path.parent? = some parent ∧
        cause = .directoryNotCreated parent fault) ∨ ∃ fault, cause = .notWritten path fault)
    (unused : before.IsUnused temporary) (unmentioned : temporary ∉ path.segments)
    (grown : Grown policy.directoryMode (·.Around path) before after) :
    policy.FailsCleanly temporary path before cause after where
  named := Or.inr named
  untouched := by
    rintro rfl
    rcases named with ⟨parent, fault, -, impossible⟩ | ⟨fault, impossible⟩
    · cases impossible
    · cases impossible
  grown := grown
  leaves_eq := fun _ _ => grown.leaves_eq
  hollow := fun _ _ _ => grown.hollow
  absent := (unused.grown grown unmentioned).absent

theorem failsCleanly_of_refused {before : FileTree} (unused : before.IsUnused temporary) :
    policy.FailsCleanly temporary path before (.destinationExists path) before where
  named := Or.inl rfl
  untouched := fun _ => rfl
  grown := Grown.refl _ _ _
  leaves_eq := fun _ _ _ => Iff.rfl
  hollow := fun _ _ _ => (Grown.refl policy.directoryMode (·.Around path) _).hollow
  absent := unused.absent

theorem write_failsCleanly {cause : Failure} (unused : world.tree.IsUnused temporary)
    (unmentioned : temporary ∉ path.segments)
    (ran : Action.runIn world (policy.write temporary path content) = (.error cause, next)) :
    policy.FailsCleanly temporary path world.tree cause next.tree := by
  have outcome := write_outcome policy content unused unmentioned
  rw [ran] at outcome
  cases outcome with
  | refused _ _ => exact failsCleanly_of_refused unused
  | stopped has grown =>
      exact .of_grown (Or.inl ⟨_, _, has, rfl⟩) unused unmentioned grown
  | unwritten _ grown alike =>
      exact .of_grown (Or.inr ⟨_, rfl⟩) unused unmentioned (grown.alike alike)

/-- A write that fails leaves new directories around the path at most. -/
theorem write_and_writeNew_fail_cleanly (policy : WritePolicy) (content : String)
    (unused : world.tree.IsUnused temporary) (unmentioned : temporary ∉ path.segments)
    (cause : Failure) (next : World) :
    (Action.runIn world (policy.write temporary path content) = (.error cause, next) →
        policy.FailsCleanly temporary path world.tree cause next.tree) ∧
      (Action.runIn world (policy.writeNew temporary path content) = (.error cause, next) →
        policy.FailsCleanly temporary path world.tree cause next.tree) := by
  constructor
  · exact write_failsCleanly unused unmentioned
  · intro ran
    rw [runIn_writeNew] at ran
    split at ran
    · cases ran
    · rcases written : Action.runIn world (policy.write temporary path content) with ⟨result, last⟩
      rw [written] at ran
      cases result with
      | ok _ => cases ran
      | error fault =>
          cases ran
          exact write_failsCleanly unused unmentioned written

/-- The directory `n` of `n/../f/g` is made before `f` turns out to be a file. -/
theorem write_below_file_fails_cleanly :
    ∃ cause next,
      Action.runIn linkedWorld (({} : WritePolicy).write (Text.encode ".tmp-0")
          (Path.ofString "n/../f/g") "new") = (.error cause, next) ∧
        next.tree.at? [Text.encode "n", Text.encode "w"] = some (.directory 0o755) ∧
        ({} : WritePolicy).FailsCleanly (Text.encode ".tmp-0") (Path.ofString "n/../f/g")
          linkedWorld.tree cause next.tree := by
  have unmentioned : Text.encode ".tmp-0" ∉ (Path.ofString "n/../f/g").segments := by decide
  have made : (Action.runIn linkedWorld (({} : WritePolicy).write (Text.encode ".tmp-0")
      (Path.ofString "n/../f/g") "new")).2.tree.at? [Text.encode "n", Text.encode "w"] =
        some (.directory 0o755) := by
    decide +kernel
  have failed : (Action.runIn linkedWorld (({} : WritePolicy).write (Text.encode ".tmp-0")
      (Path.ofString "n/../f/g") "new")).1 =
        .error (.directoryNotCreated (Path.ofString "n/../f") .alreadyExists) := by
    decide +kernel
  rcases ran : Action.runIn linkedWorld (({} : WritePolicy).write (Text.encode ".tmp-0")
    (Path.ofString "n/../f/g") "new") with ⟨result, next⟩
  rw [ran] at made failed
  cases failed
  obtain ⟨clean, -⟩ := write_and_writeNew_fail_cleanly {} "new" linkedWorld_unused unmentioned
    (.directoryNotCreated (Path.ofString "n/../f") .alreadyExists) next
  exact ⟨_, next, rfl, made, clean ran⟩

/-! ### Entries that are replaced although nothing may be -/

def destination? (policy : WritePolicy) (path : Path) (world : World) : Option Location :=
  (Action.runIn world (policy.prepareAround path)).2.tree.landing? path

/-- A write is done at a location that has another entry. -/
structure Overwrites (policy : WritePolicy) (temporary : Name) (path : Path) (content : String)
    (world : World) (location : Location) (entry : Entry) : Prop where
  done : (Action.runIn world (policy.write temporary path content)).1 = .ok ()
  destination : policy.destination? path world = some location
  differs : entry ≠ .file content.toUTF8

theorem at?_write_ne_iff {location : Location} {entry : Entry}
    (unused : world.tree.IsUnused temporary) (unmentioned : temporary ∉ path.segments)
    (present : world.tree.at? location = some entry) :
    (Action.runIn world (policy.write temporary path content)).2.tree.at? location ≠ some entry ↔
      policy.Overwrites temporary path content world location entry := by
  rcases ran : Action.runIn world (policy.write temporary path content) with ⟨result, next⟩
  cases result with
  | error cause =>
      have clean := write_failsCleanly unused unmentioned ran
      constructor
      · intro changed
        exact absurd (clean.grown.kept location entry present) changed
      · intro overwrites
        have done := overwrites.done
        rw [ran] at done
        cases done
  | ok value =>
      have outcome := write_outcome policy content unused unmentioned
      rw [ran] at outcome
      cases outcome with
      | @written prepared _ directory name prepares grown _ ends _ written =>
          have lands : policy.destination? path world = some (name :: directory) := by
            rw [destination?, prepares]
            exact ends.landing?_eq
          have done : (Action.runIn world (policy.write temporary path content)).1 = .ok () := by
            rw [ran]
          rw [written.at?_ne_iff (grown.kept location entry present)]
          constructor
          · rintro ⟨rfl, differs⟩
            exact ⟨done, lands, differs⟩
          · intro overwrites
            have same := lands.symm.trans overwrites.destination
            exact ⟨(Option.some.inj same).symm, overwrites.differs⟩

/-- What a write overwrites was not found before: it is a link where the path lands, or the path
goes up again from a directory that was missing. -/
theorem Overwrites.unseen {location : Location} {entry : Entry}
    (careful : policy.mayReplace = false) (unused : world.tree.IsUnused temporary)
    (unmentioned : temporary ∉ path.segments)
    (present : world.tree.at? location = some entry)
    (overwrites : policy.Overwrites temporary path content world location entry) :
    world.tree.exists? path = false ∧
      ((world.tree.landing? path = some location ∧ ∃ target, entry = .link target) ∨
        .up ∈ path.components ∧
          ∃ parent, path.parent? = some parent ∧ world.tree.isDirectory parent = false) := by
  have unseen : world.tree.exists? path = false := by
    rw [← Bool.not_eq_true]
    intro seen
    have done := overwrites.done
    rw [runIn_write, careful, seen] at done
    cases done
  refine ⟨unseen, ?_⟩
  rcases ran : Action.runIn world (policy.write temporary path content) with ⟨result, next⟩
  have done := overwrites.done
  have outcome := write_outcome policy content unused unmentioned
  rw [ran] at done outcome
  cases done
  cases outcome with
  | @written prepared _ directory name prepares _ _ ends free _ =>
      have lands := overwrites.destination
      rw [destination?, prepares, ends.landing?_eq] at lands
      cases lands
      rcases prepared_eq_or_goes_up prepares ends present with rfl | up
      · left
        exact ⟨ends.landing?_eq, ends.exists_target free unseen present⟩
      · exact Or.inr up

/-- An entry is not left as it was exactly if it is overwritten. -/
theorem changed_iff_overwrites (policy : WritePolicy) (content : String)
    (careful : policy.mayReplace = false) (unused : world.tree.IsUnused temporary)
    (unmentioned : temporary ∉ path.segments) (location : Location) (entry : Entry)
    (present : world.tree.at? location = some entry) :
    ((Action.runIn world (policy.write temporary path content)).2.tree.at? location ≠ some entry ↔
        policy.Overwrites temporary path content world location entry) ∧
      ((Action.runIn world (policy.writeNew temporary path content)).2.tree.at? location ≠
          some entry ↔ policy.Overwrites temporary path content world location entry) ∧
      (policy.Overwrites temporary path content world location entry →
        world.tree.exists? path = false ∧
          ((world.tree.landing? path = some location ∧ ∃ target, entry = .link target) ∨
            .up ∈ path.components ∧
              ∃ parent, path.parent? = some parent ∧ world.tree.isDirectory parent = false)) := by
  have written := @at?_write_ne_iff policy path content temporary world _ _ unused unmentioned
    present
  have unseen := @Overwrites.unseen policy path content temporary world _ _ careful unused
    unmentioned present
  refine ⟨written, ?_, unseen⟩
  rw [runIn_writeNew]
  split
  next seen =>
      constructor
      · intro changed
        exact absurd present changed
      · intro overwrites
        rw [(unseen overwrites).1] at seen
        cases seen
  next => exact written

/-- The file `f` is overwritten by way of `a/../f` when there is no `a`. -/
theorem file_overwritten_by_going_up :
    linkedWorld.tree.at? [Text.encode "f", Text.encode "w"] = some (.file "old".toUTF8) ∧
      ({} : WritePolicy).Overwrites (Text.encode ".tmp-0") (Path.ofString "a/../f") "new"
        linkedWorld [Text.encode "f", Text.encode "w"] (.file "old".toUTF8) := by
  have present : linkedWorld.tree.at? [Text.encode "f", Text.encode "w"] =
      some (.file "old".toUTF8) := by
    decide +kernel
  refine ⟨present, ?_⟩
  apply (changed_iff_overwrites {} "new" rfl linkedWorld_unused (by decide) _ _ present).1.mp
  decide +kernel

/-- A write that may not replace anything does not keep every entry all the same. -/
theorem not_every_entry_is_kept :
    ¬ ∀ (policy : WritePolicy) (temporary : Name) (path : Path) (content : String) (world : World),
      policy.mayReplace = false → world.tree.IsUnused temporary → temporary ∉ path.segments →
        ∀ location entry, world.tree.at? location = some entry →
          (Action.runIn world (policy.write temporary path content)).2.tree.at? location =
            some entry := by
  intro kept
  have same := kept {} (Text.encode ".tmp-0") (Path.ofString "a/../f") "new" linkedWorld rfl
    linkedWorld_unused (by decide) [Text.encode "f", Text.encode "w"] (.file "old".toUTF8)
    (by decide +kernel)
  revert same
  decide +kernel

end Scaffold.WritePolicy
