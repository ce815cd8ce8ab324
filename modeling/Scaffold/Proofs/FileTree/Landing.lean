import Scaffold.FileTree.Writing
import Scaffold.Proofs.FileTree.Effects
import Scaffold.Proofs.Running

/-! Where a file that is put at a path comes to stand.

`landing?` reads it off the path as it is written: the file name of the path, in the directory that
the parent of the path leads to. `EndsAt` says the same of the components, which is what creating,
renaming and removing go by. Main statements: the two agree (`EndsAt.landing?_eq`), and a path ends
in the directory that any other name beside its file name ends in (`EndsAt.of_beside`). -/

set_option autoImplicit false

namespace Scaffold.FileTree

/-- The location that has the file name of a path in the directory that its parent leads to. -/
def landing? (tree : FileTree) (path : Path) : Option Location :=
  match path.fileName?, path.parent? with
  | some name, some parent =>
      if parent.isEmpty then some (name :: tree.workingDirectory)
      else match tree.find? parent with
        | .ok (directory, .directory _) => some (name :: directory)
        | _ => none
  | _, _ => none

/-- A path ends in a name that no slash follows, and what stands before the name leads to a
directory. -/
structure EndsAt (tree : FileTree) (path : Path) (directory : Location) (name : Name) : Prop where
  checked : tree.checkPath path = .ok ()
  short : ¬ tree.limits.nameBytes < name.length
  leads : ∃ before left, path.components = before ++ [.entry name] ∧
    tree.Leads tree.limits.links (startOf tree.workingDirectory path) before left directory

variable {tree : FileTree} {path : Path} {name : Name} {directory : Location}

namespace EndsAt

theorem isDirectory (ends : tree.EndsAt path directory name) : tree.IsDirectory directory := by
  obtain ⟨before, left, -, leads⟩ := ends.leads
  exact leads.isDirectory (IsDirectory.startOf tree.working_directory path)

theorem resolveParent_eq (ends : tree.EndsAt path directory name) :
    tree.resolveParent path = .ok (directory, .named name false) := by
  obtain ⟨before, left, divided, leads⟩ := ends.leads
  have split : splitLast path.components = (before, .named name false) := by
    rw [divided]
    exact splitLast_append_entry before name
  exact resolveParent_of_leads ends.checked split leads

theorem entry_mem_steps (ends : tree.EndsAt path directory name) : .entry name ∈ path.steps := by
  obtain ⟨before, left, divided, -⟩ := ends.leads
  exact Path.entry_mem_steps divided

theorem find?_eq (ends : tree.EndsAt path directory name) {content : ByteArray}
    (found : tree.at? (name :: directory) = some (.file content)) :
    tree.find? path = .ok (name :: directory, .file content) := by
  obtain ⟨before, left, divided, leads⟩ := ends.leads
  rw [find?_eq_ok_iff]
  refine ⟨ends.checked, ?_, found⟩
  rw [divided, leads.inspect_append, walk_entry open_of_inspect ends.short, found]
  rfl

/-- Where a path ends at an entry and leads to nothing, a link stands. -/
theorem exists_target (ends : tree.EndsAt path directory name)
    (free : ¬ tree.IsDirectory (name :: directory)) (unseen : tree.exists? path = false)
    {entry : Entry} (present : tree.at? (name :: directory) = some entry) :
    ∃ target, entry = .link target := by
  cases entry with
  | directory mode => exact absurd ⟨mode, present⟩ free
  | link target => exact ⟨target, rfl⟩
  | file content =>
      rw [exists?, ends.find?_eq present] at unseen
      cases unseen

theorem mono {before after : FileTree} (limits : after.limits = before.limits)
    (place : after.workingDirectory = before.workingDirectory)
    (kept : ∀ location entry, entry.isFile = false → before.at? location = some entry →
      after.at? location = some entry)
    (ends : before.EndsAt path directory name) : after.EndsAt path directory name where
  checked := (checkPath_congr limits path).trans ends.checked
  short := by
    rw [limits]
    exact ends.short
  leads := by
    obtain ⟨front, left, divided, leads⟩ := ends.leads
    rw [limits, place]
    exact ⟨front, left, divided, leads.mono limits kept⟩

theorem steps_eq (ends : tree.EndsAt path directory name) :
    ∃ before left, path.steps = before.filter Component.moves ++ [.entry name] ∧
      tree.Leads tree.limits.links (startOf tree.workingDirectory path) before left directory := by
  obtain ⟨before, left, divided, leads⟩ := ends.leads
  refine ⟨before, left, ?_, leads⟩
  rw [Path.steps, divided, List.filter_append]
  rfl

theorem find?_parent (ends : tree.EndsAt path directory name) :
    path.fileName? = some name ∧ ∃ parent, path.parent? = some parent ∧
      (parent.isEmpty = true ∧ directory = tree.workingDirectory ∨
        parent.isEmpty = false ∧ ∃ mode, tree.find? parent = .ok (directory, .directory mode)) := by
  obtain ⟨before, left, steps, leads⟩ := ends.steps_eq
  obtain ⟨named, parent, has, same⟩ := Path.fileName?_of_steps steps
  have onward := leads.of_same_steps same
  rw [← startOf_parent? _ has] at onward
  refine ⟨named, parent, has, ?_⟩
  cases written : parent.isEmpty with
  | true =>
      have bytes : parent = ⟨[]⟩ := congrArg Path.mk (List.isEmpty_iff.mp written)
      have here : tree.Leads tree.limits.links (startOf tree.workingDirectory parent)
          parent.components tree.limits.links tree.workingDirectory := by
        rw [bytes]
        exact .blank .done
      exact Or.inl ⟨rfl, (onward.unique here).2⟩
  | false =>
      obtain ⟨mode, found⟩ := ends.isDirectory
      refine Or.inr ⟨rfl, mode, find?_directory_iff.mpr ⟨?_, found, left, onward⟩⟩
      exact checkPath_of_beginning (Path.parent?_bytes_begin has) written ends.checked

theorem landing?_eq (ends : tree.EndsAt path directory name) :
    tree.landing? path = some (name :: directory) := by
  obtain ⟨named, parent, has, ⟨empty, same⟩ | ⟨written, mode, found⟩⟩ := ends.find?_parent
  · rw [landing?, named, has]
    simp only
    rw [if_pos empty, same]
  · rw [landing?, named, has]
    simp only
    rw [written, if_neg (by decide), found]

/-- A path ends in the directory that another name in place of its file name ends in. -/
theorem of_beside {other : Name} (proper : Path.IsName other)
    (beside : tree.EndsAt (path.withFileName other) directory other)
    (checked : tree.checkPath path = .ok ()) (short : ¬ tree.limits.nameBytes < name.length)
    {front : List Component} (divided : path.components = front ++ [.entry name]) :
    tree.EndsAt path directory name := by
  have steps : path.steps = front.filter Component.moves ++ [.entry name] := by
    rw [Path.steps, divided, List.filter_append]
    rfl
  obtain ⟨absolute, before, divided', idle⟩ := Path.withFileName_beside proper steps
  obtain ⟨before', left, same, leads⟩ := beside.leads
  obtain ⟨rfl, -⟩ := List.append_inj' (divided'.symm.trans same) rfl
  have onward := leads.of_same_steps idle.symm
  unfold startOf at onward
  rw [absolute] at onward
  exact ⟨checked, short, front, left, divided, onward⟩

theorem unique {other : Name} {place : Location} (ends : tree.EndsAt path directory name)
    (again : tree.EndsAt path place other) : name = other ∧ directory = place := by
  obtain ⟨before, left, divided, leads⟩ := ends.leads
  obtain ⟨before', left', divided', leads'⟩ := again.leads
  obtain ⟨rfl, same⟩ := List.append_inj' (divided.symm.trans divided') rfl
  cases same
  exact ⟨rfl, (leads.unique leads').2⟩

end EndsAt

theorem endsAt_of_resolveParent (short : ¬ tree.limits.nameBytes < name.length)
    (resolved : tree.resolveParent path = .ok (directory, .named name false)) :
    tree.EndsAt path directory name := by
  obtain ⟨checked, before, split, left, leads⟩ := resolveParent_eq_ok resolved
  obtain ⟨blanks, divided, -, slash⟩ := eq_of_splitLast split
  have none : blanks = [] := by
    by_contra some
    rw [decide_eq_true some] at slash
    cases slash
  rw [none] at divided
  exact ⟨checked, short, before, left, divided, leads⟩

end Scaffold.FileTree
