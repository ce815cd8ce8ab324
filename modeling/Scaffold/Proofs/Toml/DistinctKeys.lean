import Mathlib.Data.List.Nodup
import Scaffold.Toml.Document

/-! No key of a document is bound twice.

Every change of a table goes through `updateAt`, which adds a key only if it is not bound yet; a
table that is taken up again is taken out of its place first. Only the keys of the outermost table
are followed here. Main statement: `document?_distinct`. -/

set_option autoImplicit false

namespace Scaffold.Toml

def Distinct (entries : Entries) : Prop := (entries.map Prod.fst).Nodup

variable {entries root : Entries} {key : String}

theorem not_mem_of_lookup_eq_none (unbound : entries.lookup key = none) :
    key ∉ entries.map Prod.fst := by
  intro member
  obtain ⟨entry, present, named⟩ := List.mem_map.mp member
  have other := List.lookup_eq_none_iff.mp unbound entry present
  rw [named, bne_self_eq_false] at other
  cases other

theorem Distinct.append (distinct : Distinct entries) (unbound : entries.lookup key = none)
    (value : Value) : Distinct (entries ++ [(key, value)]) := by
  have absent := not_mem_of_lookup_eq_none unbound
  rw [Distinct, List.map_append]
  apply List.Nodup.append distinct (List.nodup_singleton key)
  intro other bound same
  exact absent (List.mem_singleton.mp same ▸ bound)

theorem map_fst_replaceEntry (key : String) (value : Value) (entries : Entries) :
    (replaceEntry key value entries).map Prod.fst = entries.map Prod.fst := by
  induction entries with
  | nil => rfl
  | cons entry rest ih =>
      obtain ⟨other, old⟩ := entry
      rw [replaceEntry]
      by_cases same : other = key
      · rw [if_pos same, List.map_cons, List.map_cons, same]
      · rw [if_neg same, List.map_cons, List.map_cons, ih]

theorem Distinct.replaceEntry (distinct : Distinct entries) (key : String) (value : Value) :
    Distinct (replaceEntry key value entries) := by
  rwa [Distinct, map_fst_replaceEntry]

theorem Distinct.filter (distinct : Distinct entries) (keep : String × Value → Bool) :
    Distinct (entries.filter keep) :=
  (List.filter_sublist.map Prod.fst).nodup distinct

theorem Distinct.updateAt {α : Type} {passed origin : Origin}
    {change : Origin → Entries → Option (Entries × α)} {path : List String} {answer : α}
    {changed : Entries}
    (kept : ∀ origin entries changed answer,
      change origin entries = some (changed, answer) → Distinct entries → Distinct changed)
    (distinct : Distinct entries)
    (done : updateAt passed change path origin entries = some (changed, answer)) :
    Distinct changed := by
  -- What is changed further down does not touch the keys here, so no induction is needed.
  cases path with
  | nil => exact kept origin entries changed answer done distinct
  | cons key path =>
      rw [Toml.updateAt] at done
      split at done
      next unbound =>
        obtain ⟨⟨inner, within⟩, -, result⟩ := Option.bind_eq_some_iff.mp done
        cases result
        exact distinct.append unbound _
      next =>
        split at done
        · cases done
        · obtain ⟨⟨inner, within⟩, -, result⟩ := Option.bind_eq_some_iff.mp done
          cases result
          exact distinct.replaceEntry key _
      next =>
        split at done
        next =>
          obtain ⟨⟨inner, within⟩, -, result⟩ := Option.bind_eq_some_iff.mp done
          cases result
          exact distinct.replaceEntry key _
        next => cases done
      next => cases done

theorem Distinct.bind? {path : List String} {value : Value} {origin : Origin} {bound : Entries}
    (distinct : Distinct entries)
    (done : bind? path key value origin entries = some bound) : Distinct bound := by
  obtain ⟨⟨changed, answer⟩, updated, same⟩ := Option.map_eq_some_iff.mp done
  cases same
  refine distinct.updateAt ?_ updated
  intro origin entries changed answer change distinct
  split at change
  · cases change
  · split at change
    · cases change
    next unbound =>
      cases change
      exact distinct.append (Option.not_isSome_iff_eq_none.mp unbound) value

namespace Assembly

variable {assembly next : Assembly}

/-- The keys of the document under construction are distinct. They stand in `current` until the
first header. -/
structure IsDistinct (assembly : Assembly) : Prop where
  root : Distinct assembly.root
  current : assembly.name = none → Distinct assembly.current

theorem finish?_distinct (distinct : assembly.IsDistinct)
    (complete : assembly.finish? = some entries) : Distinct entries := by
  rw [finish?] at complete
  split at complete
  next unnamed =>
    cases complete
    exact distinct.current unnamed
  next name named =>
    obtain ⟨⟨changed, answer⟩, updated, same⟩ := Option.map_eq_some_iff.mp complete
    cases same
    refine distinct.root.updateAt ?_ updated
    intro origin entries changed answer change distinct
    split at change
    next unbound =>
      cases change
      exact distinct.append unbound _
    next =>
      split at change
      · cases change
        exact distinct.replaceEntry _ _
      · cases change
    next => cases change

theorem beginTable?_distinct {name : DottedKey} (distinct : Distinct root)
    (begun : beginTable? name root = some next) : next.IsDistinct := by
  obtain ⟨⟨changed, answer⟩, updated, same⟩ := Option.bind_eq_some_iff.mp begun
  cases same
  refine ⟨distinct.updateAt ?_ updated, by simp⟩
  intro origin entries changed answer change distinct
  split at change
  · cases change
    exact distinct
  · cases change
    exact distinct.filter _
  · cases change

theorem beginItem?_distinct {name : DottedKey} (distinct : Distinct root)
    (begun : beginItem? name root = some next) : next.IsDistinct := by
  obtain ⟨⟨changed, answer⟩, updated, same⟩ := Option.bind_eq_some_iff.mp begun
  cases same
  refine ⟨distinct.updateAt ?_ updated, by simp⟩
  intro origin entries changed answer change distinct
  split at change
  next unbound =>
    cases change
    exact distinct.append unbound _
  next =>
    cases change
    exact distinct
  next => cases change

theorem add?_distinct {statement : Statement} (distinct : assembly.IsDistinct)
    (added : assembly.add? statement = some next) : next.IsDistinct := by
  cases statement with
  | header name =>
      obtain ⟨root, complete, begun⟩ := Option.bind_eq_some_iff.mp added
      exact beginTable?_distinct (finish?_distinct distinct complete) begun
  | arrayHeader name =>
      obtain ⟨root, complete, begun⟩ := Option.bind_eq_some_iff.mp added
      exact beginItem?_distinct (finish?_distinct distinct complete) begun
  | binding name value =>
      obtain ⟨current, bound, same⟩ := Option.bind_eq_some_iff.mp added
      cases same
      exact ⟨distinct.root, fun unnamed => (distinct.current unnamed).bind? bound⟩

theorem foldlM_add?_distinct {statements : List Statement} (distinct : assembly.IsDistinct)
    (added : statements.foldlM add? assembly = some next) : next.IsDistinct := by
  induction statements generalizing assembly with
  | nil =>
      cases added
      exact distinct
  | cons statement statements ih =>
      rw [List.foldlM_cons] at added
      obtain ⟨between, first, others⟩ := Option.bind_eq_some_iff.mp added
      exact ih (add?_distinct distinct first) others

end Assembly

/-- The keys of a document are distinct. -/
theorem document?_distinct {text : String} (found : document? text = some entries) :
    (entries.map Prod.fst).Nodup := by
  obtain ⟨statements, -, assembled⟩ := Option.bind_eq_some_iff.mp found
  obtain ⟨assembly, added, complete⟩ := Option.bind_eq_some_iff.mp assembled
  have start : Assembly.start.IsDistinct := ⟨List.nodup_nil, fun _ => List.nodup_nil⟩
  exact Assembly.finish?_distinct (Assembly.foldlM_add?_distinct start added) complete

end Scaffold.Toml
