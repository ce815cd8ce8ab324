import Scaffold.Proofs.Toml.FlatDocument
import Scaffold.Settings.Source

/-! The document of settings gives the settings back.

It is a flat document: five entries that stand by themselves, the default tokens, and the project if
there is one. Texts and token names may be any strings. Main statement: `ofDocument_written`. -/

set_option autoImplicit false

namespace Scaffold

open Toml

/-! ### Tokens in order -/

theorem Tokens.bindings_insert {tokens : Tokens} {name : String}
    (absent : name ∉ tokens.bindings.map Prod.fst) (text : String) :
    (tokens.insert name text).bindings = tokens.bindings ++ [(name, text)] := by
  rw [insert, dif_neg absent]

theorem Tokens.bindings_foldl_insert {tokens : Tokens} {added : List (String × String)}
    (distinct : ((tokens.bindings ++ added).map Prod.fst).Nodup) :
    (added.foldl (fun tokens binding => tokens.insert binding.1 binding.2) tokens).bindings =
      tokens.bindings ++ added := by
  induction added generalizing tokens with
  | nil => rw [List.append_nil, List.foldl_nil]
  | cons binding added ih =>
      have absent : binding.1 ∉ tokens.bindings.map Prod.fst := by
        rw [List.map_append] at distinct
        exact fun member =>
          List.disjoint_of_nodup_append distinct member List.mem_cons_self
      have grown := Tokens.bindings_insert absent binding.2
      rw [List.foldl_cons, ih (by rwa [grown, List.append_assoc]), grown, List.append_assoc]
      rfl

theorem Tokens.ofList_bindings (tokens : Tokens) : Tokens.ofList tokens.bindings = tokens := by
  have same : (Tokens.ofList tokens.bindings).bindings = tokens.bindings :=
    Tokens.bindings_foldl_insert tokens.names_distinct
  cases tokens with
  | mk bindings distinct =>
      cases made : Tokens.ofList bindings with
      | mk others apart =>
          rw [made] at same
          cases same
          rfl

namespace Settings

/-! ### What is written -/

def texts (bindings : List (String × String)) : Entries :=
  bindings.map fun (name, text) => (name, .string text)

def plainEntries (settings : Settings) : Entries :=
  [("stub_dir", .string settings.stubDirectory), ("base_path", .string settings.basePath),
    ("overwrite", .boolean settings.mayReplace),
    ("dir_mode", .integer settings.directoryMode.toNat), ("log_level", .string settings.logLevel)]

def fields (project : Naming.Project) : List (String × String) :=
  [("slug", project.slug), ("prefix", project.identifierPrefix),
    ("text_domain", project.textDomain), ("namespace", project.rootNamespace)]

def tables (settings : Settings) : List (String × Entries) :=
  ("defaults", texts settings.defaults.bindings) ::
    (settings.project.map fun project => ("project", texts (fields project))).toList

theorem spells_writeText (key text : String) :
    Spells (writeText key text) [.binding ⟨[], key⟩ (.string text)] :=
  spells_writeBinding key (readsAs_writeString text)

theorem spells_texts (added : List (String × String)) :
    Spells (added.flatMap fun (name, text) => writeText name text)
      (bindings (texts added)) := by
  induction added with
  | nil => exact spells_nil
  | cons binding added ih => exact (spells_writeText binding.1 binding.2).append ih

theorem spells_writeProject (project : Naming.Project) :
    Spells (writeProject project) (sections [("project", texts (fields project))]) :=
  ((((spells_writeHeader "project").append (spells_writeText "slug" project.slug)).append
    (spells_writeText "prefix" project.identifierPrefix)).append
    (spells_writeText "text_domain" project.textDomain)).append
    (spells_writeText "namespace" project.rootNamespace)

theorem spells_plainEntries (settings : Settings) :
    Spells
      (writeText "stub_dir" settings.stubDirectory ++ writeText "base_path" settings.basePath ++
        writeBinding "overwrite" (toString settings.mayReplace).toList ++
        writeBinding "dir_mode" (Nat.toDigits 10 settings.directoryMode.toNat) ++
        writeText "log_level" settings.logLevel)
      (bindings settings.plainEntries) := by
  have mode : settings.directoryMode.toNat < 9223372036854775808 :=
    Nat.lt_trans settings.directoryMode.toNat_lt (by decide)
  exact ((((spells_writeText "stub_dir" settings.stubDirectory).append
    (spells_writeText "base_path" settings.basePath)).append
    (spells_writeBinding "overwrite" (readsAs_toString settings.mayReplace))).append
    (spells_writeBinding "dir_mode" (readsAs_toDigits mode))).append
    (spells_writeText "log_level" settings.logLevel)

theorem spells_tables (settings : Settings) :
    Spells
      (writeHeader "defaults" ++
        (settings.defaults.bindings.flatMap (fun (name, text) => writeText name text) ++
          (settings.project.map writeProject).getD []))
      (sections settings.tables) := by
  rw [tables, sections, List.flatMap_cons, List.cons_append]
  apply (spells_writeHeader "defaults").append
  apply (spells_texts settings.defaults.bindings).append
  cases settings.project with
  | none => exact spells_nil
  | some project => exact spells_writeProject project

theorem spells_written (settings : Settings) :
    Spells settings.written.toList
      (bindings settings.plainEntries ++ sections settings.tables) := by
  have whole := (spells_plainEntries settings).append (spells_tables settings)
  rw [written, String.toList_ofList]
  simpa only [List.append_assoc] using whole

/-! ### What is read -/

theorem foldlM_texts (bindings : List (String × String)) (tokens : Tokens) :
    (texts bindings).foldlM (fun tokens (name, entry) => do
        return tokens.insert name (← readText .string entry)) tokens =
      (.ok (bindings.foldl (fun tokens binding => tokens.insert binding.1 binding.2) tokens) :
        Except Mismatch Tokens) := by
  induction bindings generalizing tokens with
  | nil => rfl
  | cons binding bindings ih => exact ih (tokens.insert binding.1 binding.2)

theorem readTokens_texts (origin : Origin) (tokens : Tokens) :
    readTokens (.table origin (texts tokens.bindings)) = .ok tokens :=
  (foldlM_texts tokens.bindings Tokens.empty).trans (congrArg Except.ok tokens.ofList_bindings)

theorem readWord_toNat (word : UInt32) : readWord (.integer word.toNat) = .ok word := by
  have small : (word.toNat : Int) < UInt32.size := by
    have bound := word.toNat_lt
    simp only [UInt32.size]
    omega
  rw [readWord, if_pos ⟨by omega, small⟩, Int.toNat_natCast, UInt32.ofNat_toNat]

theorem foldlM_plainEntries (settings : Settings) :
    settings.plainEntries.foldlM readEntry {} =
      .ok { settings with defaults := ∅, project := none } := by
  have mode := readWord_toNat settings.directoryMode
  simp only [plainEntries, List.foldlM_cons, readEntry, readText, readBoolean, mode]
  rfl

theorem ofEntries_saved (settings : Settings) :
    ofEntries (settings.plainEntries ++ settings.tables.map fun (key, entries) =>
      (key, .table .header entries)) = .ok settings := by
  have defaults : readEntry { settings with defaults := ∅, project := none }
      ("defaults", .table .header (texts settings.defaults.bindings)) =
        .ok { settings with project := none } := by
    simp only [readEntry, readTokens_texts]
    rfl
  have project (named : Naming.Project) : readEntry { settings with project := none }
      ("project", .table .header (texts (fields named))) =
        .ok { settings with project := some named } := rfl
  rw [ofEntries, List.foldlM_append, foldlM_plainEntries, tables, List.map_cons]
  simp only [bind, Except.bind, List.foldlM_cons, defaults]
  cases named : settings.project with
  | none =>
      have same : { settings with project := none } = settings := by rw [← named]
      rw [same]
      rfl
  | some given =>
      have same : { settings with project := some given } = settings := by rw [← named]
      rw [Option.map_some, Option.toList_some, List.map_singleton, List.foldlM_cons, project, same]
      rfl

/-! ### Names are distinct -/

theorem names_tables (settings : Settings) :
    settings.tables.map Prod.fst =
      "defaults" :: (settings.project.map fun _ => "project").toList := by
  rw [tables]
  cases settings.project with
  | none => rfl
  | some project => rfl

theorem nodup_names (settings : Settings) :
    (settings.plainEntries.map Prod.fst ++ settings.tables.map Prod.fst).Nodup := by
  have plain : settings.plainEntries.map Prod.fst =
      ["stub_dir", "base_path", "overwrite", "dir_mode", "log_level"] := rfl
  rw [plain, names_tables]
  cases settings.project with
  | none => simp
  | some project => simp

theorem nodup_texts {added : List (String × String)} (distinct : (added.map Prod.fst).Nodup) :
    ((texts added).map Prod.fst).Nodup := by
  rwa [texts, List.map_map]

theorem nodup_fields (project : Naming.Project) : ((fields project).map Prod.fst).Nodup := by
  have names : (fields project).map Prod.fst = ["slug", "prefix", "text_domain", "namespace"] := rfl
  rw [names]
  decide

theorem nodup_tables (settings : Settings) :
    ∀ table ∈ settings.tables, (table.2.map Prod.fst).Nodup := by
  intro table member
  rw [tables, List.mem_cons, Option.mem_toList, Option.map_eq_some_iff] at member
  rcases member with rfl | ⟨project, -, rfl⟩
  · exact nodup_texts settings.defaults.names_distinct
  · exact nodup_texts (nodup_fields project)

theorem head?_written (settings : Settings) : settings.written.toList.head? = some 's' := by
  rw [written, String.toList_ofList]
  rfl

end Settings

theorem SettingsSource.ofDocument_eq {text : String} {entries : Entries} {settings : Settings}
    (found : document? text = some entries) (read : Settings.ofEntries entries = .ok settings) :
    ofDocument text = .ok settings := by
  rw [ofDocument, found]
  simp only [read]

theorem SettingsSource.ofDocument_written (settings : Settings) :
    ofDocument settings.written = .ok settings := by
  have unmarked : settings.written.toList.head? ≠ some '\uFEFF' := by
    rw [settings.head?_written]
    decide
  exact ofDocument_eq (document?_of_spells settings.spells_written unmarked settings.nodup_names
    settings.nodup_tables) settings.ofEntries_saved

end Scaffold
