import Mathlib.Data.List.Nodup
import Scaffold.Proofs.Toml.WrittenLines
import Scaffold.Toml.Document

/-! Documents that are a flat table of tables.

The statements of such a document bind each key once, first those that stand by themselves and then
those of one table after the other. It has the entries in the order in which they are written
(`document?_of_spells`). -/

set_option autoImplicit false

namespace Scaffold.Toml

variable {entries root : Entries} {key : String} {assembly : Assembly}

theorem lookup_eq_none (absent : key ∉ entries.map Prod.fst) : entries.lookup key = none := by
  rw [List.lookup_eq_none_iff]
  intro entry member
  rw [bne_iff_ne]
  rintro rfl
  exact absent (List.mem_map_of_mem member)

theorem bind?_eq (absent : key ∉ entries.map Prod.fst) (value : Value) :
    bind? [] key value .header entries = some (entries ++ [(key, value)]) := by
  simp only [bind?, updateAt, lookup_eq_none absent]
  rfl

def bindings (entries : Entries) : List Statement :=
  entries.map fun (key, value) => .binding ⟨[], key⟩ value

def sections (tables : List (String × Entries)) : List Statement :=
  tables.flatMap fun (key, entries) => .header ⟨[], key⟩ :: bindings entries

theorem foldlM_bindings (assembly : Assembly)
    (distinct : ((assembly.current ++ entries).map Prod.fst).Nodup) :
    (bindings entries).foldlM Assembly.add? assembly =
      some { assembly with current := assembly.current ++ entries } := by
  induction entries generalizing assembly with
  | nil => simp [bindings]
  | cons entry entries ih =>
      obtain ⟨key, value⟩ := entry
      have absent : key ∉ assembly.current.map Prod.fst := by
        rw [List.map_append] at distinct
        exact fun member =>
          List.disjoint_of_nodup_append distinct member List.mem_cons_self
      have added : assembly.add? (.binding ⟨[], key⟩ value) =
          some { assembly with current := assembly.current ++ [(key, value)] } := by
        rw [Assembly.add?, bind?_eq absent]
        rfl
      rw [bindings, List.map_cons, List.foldlM_cons, added]
      have later := ih { assembly with current := assembly.current ++ [(key, value)] }
        (by rwa [List.append_assoc])
      simp only [List.append_assoc, List.singleton_append] at later
      exact later

theorem add?_header (complete : assembly.finish? = some root)
    (absent : key ∉ root.map Prod.fst) :
    assembly.add? (.header ⟨[], key⟩) = some ⟨root, [], some ⟨[], key⟩, false⟩ := by
  rw [Assembly.add?, complete, Option.bind_eq_bind, Option.bind_some, Assembly.beginTable?]
  simp only [updateAt, lookup_eq_none absent]
  rfl

theorem finish?_table (absent : key ∉ root.map Prod.fst) (entries : Entries) :
    (⟨root, entries, some ⟨[], key⟩, false⟩ : Assembly).finish? =
      some (root ++ [(key, .table .header entries)]) := by
  simp only [Assembly.finish?, updateAt, lookup_eq_none absent]
  rfl

theorem foldlM_sections {tables : List (String × Entries)}
    (distinct : (root.map Prod.fst ++ tables.map Prod.fst).Nodup)
    (within : ∀ table ∈ tables, (table.2.map Prod.fst).Nodup)
    (complete : assembly.finish? = some root) :
    ∃ last, (sections tables).foldlM Assembly.add? assembly = some last ∧
      last.finish? = some (root ++ tables.map fun (key, entries) =>
        (key, .table .header entries)) := by
  induction tables generalizing assembly root with
  | nil => exact ⟨assembly, rfl, by rw [complete, List.map_nil, List.append_nil]⟩
  | cons table tables ih =>
      obtain ⟨key, entries⟩ := table
      have absent : key ∉ root.map Prod.fst := fun member =>
        List.disjoint_of_nodup_append distinct member List.mem_cons_self
      have filled := foldlM_bindings (⟨root, [], some ⟨[], key⟩, false⟩ : Assembly)
        (within (key, entries) List.mem_cons_self)
      have later : ((root ++ [(key, Value.table .header entries)]).map Prod.fst ++
          tables.map Prod.fst).Nodup := by
        simpa [List.append_assoc] using distinct
      obtain ⟨last, reached, finished⟩ := ih later
        (fun table member => within table (List.mem_cons_of_mem _ member))
        (finish?_table absent entries)
      refine ⟨last, ?_, ?_⟩
      · rw [sections, List.flatMap_cons, List.cons_append, List.foldlM_cons,
          add?_header complete absent]
        simp only [Option.bind_eq_bind, Option.bind_some, List.foldlM_append]
        rw [filled]
        exact reached
      · rw [finished, List.append_assoc]
        rfl

theorem document?_of_spells {text : String} {tables : List (String × Entries)}
    (spells : Spells text.toList (bindings entries ++ sections tables))
    (unmarked : text.toList.head? ≠ some '\uFEFF')
    (distinct : (entries.map Prod.fst ++ tables.map Prod.fst).Nodup)
    (within : ∀ table ∈ tables, (table.2.map Prod.fst).Nodup) :
    document? text = some (entries ++ tables.map fun (key, entries) =>
      (key, .table .header entries)) := by
  have filled : (bindings entries).foldlM Assembly.add? Assembly.start =
      some { Assembly.start with current := entries } :=
    foldlM_bindings Assembly.start (List.nodup_append.mp distinct).1
  obtain ⟨last, reached, finished⟩ := foldlM_sections distinct within
    (rfl : Assembly.finish? { Assembly.start with current := entries } = some entries)
  rw [document?, spells.statements? unmarked]
  simp only [Option.bind_eq_bind, Option.bind_some, List.foldlM_append]
  rw [filled]
  simp only [Option.bind_some]
  rw [reached]
  exact finished

end Scaffold.Toml
