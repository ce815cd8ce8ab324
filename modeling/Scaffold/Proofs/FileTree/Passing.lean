import Scaffold.Proofs.FileTree.InPlace

/-! What a resolution passes.

A resolution depends on the entries that it passes and on nothing else. A file in place of another
entry is noticed by no resolution but those that end there, or that pass a link there: then what the
link leads to exists (`Written.walk_or_target`). A file under a name that neither a path nor a link
mentions is noticed by none (`AlikeBeside.find?_eq`). -/

set_option autoImplicit false

namespace Scaffold.FileTree

variable {tree before after : FileTree} {intent : Intent} {links others : Nat}
  {directory place location : Location} {components : List Component} {path : Path}
  {name : Name} {target : Path} {content : ByteArray}

/-! ### More links -/

theorem walkWith_congr {follow further : Location → List Component → Except Fault Destination}
    (same : ∀ directory components, follow directory components ≠ .error .tooManyLinks →
      further directory components = follow directory components)
    (ended : tree.walkWith intent follow directory components ≠ .error .tooManyLinks) :
    tree.walkWith intent further directory components =
      tree.walkWith intent follow directory components := by
  induction components generalizing directory with
  | nil => rfl
  | cons component rest ih =>
      cases component with
      | blank => exact ih ended
      | here => exact ih ended
      | up => exact ih ended
      | entry name =>
          rw [walkWith] at ended
          rw [walkWith, walkWith]
          split
          · rfl
          next open' =>
              rw [if_neg open'] at ended
              split
              · rfl
              next short =>
                  rw [if_neg short] at ended
                  cases found : tree.at? (name :: directory) with
                  | none => rfl
                  | some entry =>
                      rw [found] at ended
                      cases entry with
                      | directory mode => exact ih ended
                      | file content => rfl
                      | link target => exact same _ _ ended

theorem walk_succ (ended : tree.walk intent links directory components ≠ .error .tooManyLinks) :
    tree.walk intent (links + 1) directory components =
      tree.walk intent links directory components := by
  induction links generalizing directory components with
  | zero => exact walkWith_congr (fun _ _ impossible => absurd rfl impossible) ended
  | succ fewer ih => exact walkWith_congr (fun _ _ => ih) ended

/-- A resolution that does not run out of links is the same with more of them. -/
theorem walk_of_le (fewer : links ≤ others)
    (ended : tree.walk intent links directory components ≠ .error .tooManyLinks) :
    tree.walk intent others directory components = tree.walk intent links directory components := by
  induction others, fewer using Nat.le_induction with
  | base => rfl
  | succ more _ ih => exact (walk_succ (ih ▸ ended)).trans ih

theorem ended_of_ok {result : Except Fault Destination} {destination : Destination}
    (ended : result = .ok destination) : result ≠ .error .tooManyLinks := by
  rw [ended]
  exact nofun

theorem walk_unique {destination : Destination}
    (walked : tree.walk intent links directory components = .ok destination)
    (ended : tree.walk intent others directory components ≠ .error .tooManyLinks) :
    tree.walk intent others directory components = .ok destination := by
  rcases Nat.le_total links others with fewer | more
  · rw [walk_of_le fewer (ended_of_ok walked), walked]
  · rw [← walk_of_le more ended, walked]

theorem Leads.add {left : Nat} {reached : Location}
    (leads : tree.Leads links directory components left reached) (more : Nat) :
    tree.Leads (links + more) directory components (left + more) reached := by
  induction leads with
  | done => exact .done
  | blank _ ih => exact .blank ih
  | here _ ih => exact .here ih
  | up _ ih => exact .up ih
  | enter short found _ ih => exact .enter short found ih
  | @follow links left _ _ _ _ _ short found _ ih =>
      rw [Nat.add_right_comm]
      exact .follow short found ih

/-! ### Cycles of links -/

/-- Resolution gives up at a path for too many links only where it would do so with any number of
links allowed. -/
def GivesUpOnCycles (tree : FileTree) (path : Path) : Prop :=
  tree.resolve .inspect path = .error .tooManyLinks → ∀ links,
    tree.walk .inspect links (startOf tree.workingDirectory path) path.components =
      .error .tooManyLinks

theorem resolve_eq_walk (checked : tree.checkPath path = .ok ()) :
    tree.resolve intent path =
      tree.walk intent tree.limits.links (startOf tree.workingDirectory path) path.components := by
  rw [resolve, checked]
  rfl

theorem exists?_of_walk (cyclic : tree.GivesUpOnCycles path)
    (checked : tree.checkPath path = .ok ())
    (walked : tree.walk .inspect links (startOf tree.workingDirectory path) path.components =
      .ok (.existing location)) : tree.exists? path = true := by
  have ended : tree.walk .inspect tree.limits.links (startOf tree.workingDirectory path)
      path.components ≠ .error .tooManyLinks := by
    intro stuck
    have never := cyclic ((resolve_eq_walk checked).trans stuck) links
    rw [walked] at never
    cases never
  have whole := walk_unique walked ended
  have present : ∃ entry, tree.at? location = some entry := by
    rcases isDirectory_or_file_of_walk whole with ⟨mode, inside⟩ | ⟨content, file⟩
    · exact ⟨_, inside⟩
    · exact ⟨_, file⟩
  obtain ⟨entry, present⟩ := present
  rw [exists?, find?_eq_ok_iff.mpr ⟨checked, whole, present⟩]
  rfl

/-! ### Past a link -/

theorem exists_walk_target (linked : tree.at? (name :: place) = some (.link target))
    (walked : tree.walk .inspect links place (.entry name :: components) =
      .ok (.existing location)) :
    ∃ fewer reached, tree.walk .inspect fewer (startOf place target) target.components =
        .ok (.existing reached) ∧
      (tree.IsDirectory location → tree.IsDirectory place → tree.IsDirectory reached) := by
  by_cases short : tree.limits.nameBytes < name.length
  · obtain ⟨fault, refused⟩ :=
      @walk_entry_refused tree .inspect links place components name (Or.inr short)
    rw [refused] at walked
    cases walked
  · rw [walk_entry open_of_inspect short, linked] at walked
    cases links with
    | zero => cases walked
    | succ fewer =>
        simp only at walked
        by_cases last : components = []
        · rw [last, List.append_nil] at walked
          exact ⟨fewer, location, walked, fun inside _ => inside⟩
        · obtain ⟨left, reached, leads, -⟩ := exists_leads_of_walk (Or.inl last) walked
          exact ⟨fewer, reached, leads.walk_eq,
            fun _ inside => leads.isDirectory (inside.startOf target)⟩

/-- A path that ends at a link leads where the link leads, if enough links are allowed. -/
theorem EndsAt.exists_walk (ends : tree.EndsAt path directory name)
    (linked : tree.at? (name :: directory) = some (.link target))
    (walked : tree.walk .inspect links (startOf directory target) target.components =
      .ok (.existing location)) :
    ∃ enough, tree.walk .inspect enough (startOf tree.workingDirectory path) path.components =
      .ok (.existing location) := by
  obtain ⟨front, left, divided, leads⟩ := ends.leads
  refine ⟨tree.limits.links + (links + 1), ?_⟩
  rw [divided, (leads.add (links + 1)).inspect_append, walk_entry open_of_inspect ends.short, linked]
  rw [← Nat.add_assoc]
  simp only [List.append_nil]
  rw [walk_of_le (Nat.le_add_left links left) (ended_of_ok walked), walked]

theorem EndsAt.leads_nowhere (ends : tree.EndsAt path directory name)
    (cyclic : tree.GivesUpOnCycles path) (unseen : tree.exists? path = false)
    (linked : tree.at? (name :: directory) = some (.link target)) :
    ¬ ∃ links reached, tree.walk .inspect links (startOf directory target) target.components =
      .ok (.existing reached) := by
  rintro ⟨links, reached, walked⟩
  obtain ⟨enough, whole⟩ := ends.exists_walk linked walked
  rw [exists?_of_walk cyclic ends.checked whole] at unseen
  cases unseen

/-! ### A file in place of a link -/

/-- What components lead to is still led to once a link is replaced, unless they pass the link. -/
theorem Written.walk_or_target (written : Written before after (name :: directory) content)
    (linked : before.at? (name :: directory) = some (.link target))
    (walked : before.walk .inspect links place components = .ok (.existing location)) :
    after.walk .inspect links place components = .ok (.existing location) ∨
      ∃ fewer reached, before.walk .inspect fewer (startOf directory target) target.components =
          .ok (.existing reached) ∧
        (before.IsDirectory location → before.IsDirectory reached) := by
  have kept : ∀ location entry, before.at? location = some entry →
      location = name :: directory ∨ after.at? location = some entry := by
    intro location entry found
    by_cases same : location = name :: directory
    · exact Or.inl same
    · rw [written.at?_eq, if_neg same]
      exact Or.inr found
  rcases walk_existing_or_lost (· = name :: directory) written.limits_eq kept walked with
    still | ⟨fewer, _, _, rest, same, passing⟩
  · exact Or.inl still
  · cases same
    obtain ⟨least, reached, walked, inside⟩ := exists_walk_target linked passing
    exact Or.inr ⟨least, reached, walked, fun final => inside final (isDirectory_of_at?_cons linked)⟩

theorem Written.find?_or_target (written : Written before after (name :: directory) content)
    (linked : before.at? (name :: directory) = some (.link target)) {entry : Entry}
    (found : before.find? path = .ok (location, entry)) :
    after.find? path = .ok (location, entry) ∨
      ∃ links reached, before.walk .inspect links (startOf directory target) target.components =
        .ok (.existing reached) := by
  obtain ⟨checked, walked, present⟩ := find?_eq_ok_iff.mp found
  rcases written.walk_or_target linked walked with still | ⟨links, reached, passing, -⟩
  · have apart : location ≠ name :: directory := by
      rintro rfl
      cases linked.symm.trans present
      exact find?_ne_link found
    left
    rw [find?_eq_ok_iff, checkPath_congr written.limits_eq, written.limits_eq,
      written.workingDirectory_eq, written.at?_eq, if_neg apart]
    exact ⟨checked, still, present⟩
  · exact Or.inr ⟨links, reached, passing⟩

/-- Where a link is replaced at the end of a path, the path ends there still, unless what stands
before its last name passes the link: then the link leads to a directory. -/
theorem Written.endsAt_or_target (written : Written before after (name :: directory) content)
    (linked : before.at? (name :: directory) = some (.link target))
    (ends : before.EndsAt path directory name) :
    after.EndsAt path directory name ∨
      ∃ links reached, before.walk .inspect links (startOf directory target) target.components =
        .ok (.existing reached) ∧ before.IsDirectory reached := by
  obtain ⟨front, left, divided, leads⟩ := ends.leads
  rcases written.walk_or_target linked leads.walk_eq with still | ⟨links, reached, passing, inside⟩
  · left
    have apart : directory ≠ name :: directory := fun same => List.cons_ne_self _ _ same.symm
    obtain ⟨mode, inside⟩ := ends.isDirectory
    have onward : after.IsDirectory directory := by
      refine ⟨mode, ?_⟩
      have kept := written.at?_eq directory
      rw [if_neg apart] at kept
      exact kept.trans inside
    rw [← List.append_nil front] at still
    obtain ⟨left, reached, leads, last⟩ :=
      exists_leads_of_walk (Or.inr ⟨directory, rfl, onward⟩) still
    rw [walk_nil] at last
    cases last
    refine ⟨(checkPath_congr written.limits_eq path).trans ends.checked, ?_, front, left, divided, ?_⟩
    · rw [written.limits_eq]
      exact ends.short
    · rwa [written.limits_eq, written.workingDirectory_eq]
  · exact Or.inr ⟨links, reached, passing, inside ends.isDirectory⟩

theorem Written.readBytes_of_endsAt (written : Written before after (name :: directory) content)
    (ends : after.EndsAt path directory name) : after.readBytes path = .ok content := by
  rw [readBytes, ends.find?_eq written.at?_self]
  rfl

/-- A path that can be read once a file is put where it ended ends there still. -/
theorem Written.endsAt_of_readBytes (written : Written before after (name :: directory) content)
    (ends : before.EndsAt path directory name) {bytes : ByteArray}
    (reads : after.readBytes path = .ok bytes) : after.EndsAt path directory name := by
  cases found : after.find? path with
  | error fault =>
      rw [readBytes, found] at reads
      cases reads
  | ok pair =>
      obtain ⟨front, left, divided, leads⟩ := ends.leads
      obtain ⟨checked, walked, -⟩ := find?_eq_ok_iff.mp found
      rw [divided] at walked
      obtain ⟨left', reached, onward, -⟩ :=
        exists_leads_of_walk (Or.inl (List.cons_ne_nil _ _)) walked
      have earlier := onward.mono written.limits_eq.symm fun location entry plain present => by
        have apart : location ≠ name :: directory := by
          rintro rfl
          rw [written.at?_self] at present
          cases present
          cases plain
        rwa [written.at?_eq, if_neg apart] at present
      rw [written.limits_eq, written.workingDirectory_eq] at earlier
      obtain ⟨-, rfl⟩ := leads.unique earlier
      exact ⟨checked, by rw [written.limits_eq]; exact ends.short, front, left', divided, onward⟩

/-- Once a file is put where a path ends, the path reads as its content, or it could not be read
before and cannot be read now. -/
theorem Written.readBytes_cases (written : Written before after (name :: directory) content)
    (ends : before.EndsAt path directory name) (free : ¬ before.IsDirectory (name :: directory)) :
    (after.readBytes path).toOption = (before.readBytes path).toOption ∨
      after.readBytes path = .ok content := by
  cases reads : after.readBytes path with
  | ok bytes =>
      rw [written.readBytes_of_endsAt (written.endsAt_of_readBytes ends reads)] at reads
      exact Or.inr reads.symm
  | error fault =>
      left
      have elsewhere : ¬ after.EndsAt path directory name := by
        intro still
        rw [written.readBytes_of_endsAt still] at reads
        cases reads
      have linked : ∃ target, before.at? (name :: directory) = some (.link target) := by
        by_contra plain
        apply elsewhere
        exact ends.mono written.limits_eq written.workingDirectory_eq fun location entry =>
          written.kept_of_plain free fun target linked => plain ⟨target, linked⟩
      obtain ⟨target, linked⟩ := linked
      obtain ⟨links, reached, passing, inside⟩ :=
        (written.endsAt_or_target linked ends).resolve_left elsewhere
      -- The link leads to a directory, so the path that ends at it did not lead to a file.
      cases earlier : before.find? path with
      | error fault => rw [readBytes, earlier]; rfl
      | ok pair =>
          obtain ⟨location, entry⟩ := pair
          obtain ⟨checked, walked, present⟩ := find?_eq_ok_iff.mp earlier
          obtain ⟨enough, whole⟩ := ends.exists_walk linked passing
          rw [walk_unique whole (ended_of_ok walked)] at walked
          cases walked
          obtain ⟨mode, inside⟩ := inside
          cases present.symm.trans inside
          rw [readBytes, earlier]
          rfl

/-! ### A name that nothing mentions -/

/-- A name that no entry has and that no link mentions. -/
structure IsFresh (tree : FileTree) (name : Name) : Prop extends tree.IsUnused name where
  unlinked : ∀ location target, tree.at? location = some (.link target) → name ∉ target.segments

theorem isFresh_of_not_mem_usedNames (proper : Path.IsName name) (unused : name ∉ tree.usedNames) :
    tree.IsFresh name := by
  refine ⟨isUnused_of_not_mem_usedNames proper unused, ?_⟩
  intro location target linked mentioned
  cases location with
  | nil => cases linked
  | cons first parent =>
      exact unused (List.mem_flatMap.mpr
        ⟨_, mem_entries_of_at?_cons linked, List.mem_append_right _ mentioned⟩)

/-- The same entries are at the same locations, but for those of one name. -/
structure AlikeBeside (name : Name) (before after : FileTree) : Prop where
  limits_eq : after.limits = before.limits
  workingDirectory_eq : after.workingDirectory = before.workingDirectory
  at?_eq : ∀ location, location.head? ≠ some name → after.at? location = before.at? location

theorem Alike.alikeBeside (alike : Alike before after) (name : Name) :
    AlikeBeside name before after :=
  ⟨alike.limits_eq, alike.workingDirectory_eq, fun location _ => alike.at?_eq location⟩

theorem Written.alikeBeside (written : Written before after (name :: directory) content) :
    AlikeBeside name before after where
  limits_eq := written.limits_eq
  workingDirectory_eq := written.workingDirectory_eq
  at?_eq := by
    intro location other
    have apart : location ≠ name :: directory := by
      rintro rfl
      exact other rfl
    rw [written.at?_eq, if_neg apart]

namespace AlikeBeside

theorem walkWith_eq (alike : AlikeBeside name before after) (fresh : before.IsFresh name)
    {follow further : Location → List Component → Except Fault Destination}
    (same : ∀ directory components, .entry name ∉ components →
      further directory components = follow directory components)
    (unmentioned : .entry name ∉ components) :
    after.walkWith intent further directory components =
      before.walkWith intent follow directory components := by
  induction components generalizing directory with
  | nil => rfl
  | cons component rest ih =>
      have plain := List.not_mem_of_not_mem_cons unmentioned
      cases component with
      | blank => exact ih plain
      | here => exact ih plain
      | up => exact ih plain
      | entry other =>
          have apart : (other :: directory).head? ≠ some name := by
            intro same
            cases same
            exact unmentioned List.mem_cons_self
          rw [walkWith, walkWith, alike.limits_eq, alike.at?_eq _ apart]
          cases found : before.at? (other :: directory) with
          | none => rfl
          | some entry =>
              cases entry with
              | directory mode => simp only [ih plain]
              | file content => rfl
              | link target =>
                  have outside : .entry name ∉ target.components := fun inside =>
                    fresh.unlinked _ _ found (Path.mem_segments_of_components inside)
                  simp only [same _ _ (List.not_mem_append outside plain)]

theorem walk_eq (alike : AlikeBeside name before after) (fresh : before.IsFresh name)
    (unmentioned : .entry name ∉ components) :
    after.walk intent links directory components =
      before.walk intent links directory components := by
  induction links generalizing directory components with
  | zero => exact alike.walkWith_eq fresh (fun _ _ _ => rfl) unmentioned
  | succ fewer ih => exact alike.walkWith_eq fresh (fun _ _ outside => ih outside) unmentioned

theorem find?_eq (alike : AlikeBeside name before after) (fresh : before.IsFresh name)
    (unmentioned : name ∉ path.segments) : after.find? path = before.find? path := by
  have outside : .entry name ∉ path.components :=
    fun inside => unmentioned (Path.mem_segments_of_components inside)
  unfold find? resolve
  rw [checkPath_congr alike.limits_eq, alike.limits_eq, alike.workingDirectory_eq,
    alike.walk_eq fresh outside]
  cases before.checkPath path with
  | error fault => rfl
  | ok =>
      simp only [bind, Except.bind]
      cases walked : before.walk .inspect before.limits.links
          (startOf before.workingDirectory path) path.components with
      | error fault => rfl
      | ok destination =>
          cases destination with
          | missing directory other => rfl
          | existing location =>
              have apart : location.head? ≠ some name := by
                intro first
                obtain ⟨parent, rfl⟩ := List.head?_eq_some_iff.mp first
                have absent := fresh.absent parent
                rcases isDirectory_or_file_of_walk walked with inside | ⟨content, file⟩
                · exact not_isDirectory_of_none absent inside
                · exact absurd (absent.symm.trans file) nofun
              simp only [alike.at?_eq location apart]

theorem readBytes_eq (alike : AlikeBeside name before after) (fresh : before.IsFresh name)
    (unmentioned : name ∉ path.segments) : after.readBytes path = before.readBytes path := by
  rw [readBytes, readBytes, alike.find?_eq fresh unmentioned]

end AlikeBeside

end Scaffold.FileTree
