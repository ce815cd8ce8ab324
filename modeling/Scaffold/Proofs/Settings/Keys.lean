import Scaffold.Proofs.Settings.SavedDocument
import Scaffold.Proofs.Toml.DistinctKeys

/-! Settings by their keys.

The seven settings are read by one rule, so they are told apart by a `SettingKey` here: each key has
a name in documents, a type, a default, and values that mean something for it. A document is read if
every setting that it has an entry for has a meaningful value; entries of other names are passed
over. Main statement: `ofEntries_eq_ok_iff`. -/

set_option autoImplicit false

namespace Scaffold

open Toml

theorem bind_eq_ok_iff {ε α β : Type} {first : Except ε α} {further : α → Except ε β} {result : β} :
    first >>= further = .ok result ↔ ∃ value, first = .ok value ∧ further value = .ok result := by
  cases first with
  | error cause =>
      constructor
      · intro done
        cases done
      · intro ⟨_, done, _⟩
        cases done
  | ok value =>
      constructor
      · intro done
        exact ⟨value, rfl, done⟩
      · intro ⟨other, same, done⟩
        cases same
        exact done

inductive SettingKey where
  | stubDirectory
  | basePath
  | mayReplace
  | directoryMode
  | logLevel
  | defaults
  | project
deriving DecidableEq

namespace SettingKey

abbrev Content : SettingKey → Type
  | .stubDirectory => String
  | .basePath => String
  | .mayReplace => Bool
  | .directoryMode => UInt32
  | .logLevel => String
  | .defaults => Tokens
  | .project => Option Naming.Project

def name : SettingKey → String
  | .stubDirectory => "stub_dir"
  | .basePath => "base_path"
  | .mayReplace => "overwrite"
  | .directoryMode => "dir_mode"
  | .logLevel => "log_level"
  | .defaults => "defaults"
  | .project => "project"

def default : (key : SettingKey) → key.Content
  | .stubDirectory => "stubs"
  | .basePath => "."
  | .mayReplace => false
  | .directoryMode => 0o755
  | .logLevel => "info"
  | .defaults => Tokens.empty
  | .project => none

theorem name_injective {key other : SettingKey} (same : key.name = other.name) : key = other := by
  cases key <;> cases other <;> first | rfl | exact absurd same (by decide)

end SettingKey

namespace Settings

def get (settings : Settings) : (key : SettingKey) → key.Content
  | .stubDirectory => settings.stubDirectory
  | .basePath => settings.basePath
  | .mayReplace => settings.mayReplace
  | .directoryMode => settings.directoryMode
  | .logLevel => settings.logLevel
  | .defaults => settings.defaults
  | .project => settings.project

def set (settings : Settings) : (key : SettingKey) → key.Content → Settings
  | .stubDirectory, path => { settings with stubDirectory := path }
  | .basePath, path => { settings with basePath := path }
  | .mayReplace, answer => { settings with mayReplace := answer }
  | .directoryMode, mode => { settings with directoryMode := mode }
  | .logLevel, level => { settings with logLevel := level }
  | .defaults, tokens => { settings with defaults := tokens }
  | .project, project => { settings with project := project }

variable {settings other start : Settings} {key : SettingKey}

@[simp] theorem get_set_self (settings : Settings) (key : SettingKey) (content : key.Content) :
    (settings.set key content).get key = content := by
  cases key <;> rfl

theorem get_set_of_ne {changed : SettingKey} (different : key ≠ changed) (settings : Settings)
    (content : changed.Content) : (settings.set changed content).get key = settings.get key := by
  cases changed <;> cases key <;> first | rfl | exact absurd rfl different

theorem ext_get (same : ∀ key, settings.get key = other.get key) : settings = other := by
  cases settings
  cases other
  cases same .stubDirectory
  cases same .basePath
  cases same .mayReplace
  cases same .directoryMode
  cases same .logLevel
  cases same .defaults
  cases same .project
  rfl

theorem get_default (key : SettingKey) : ({} : Settings).get key = key.default := by
  cases key <;> rfl

def ofContents (content : (key : SettingKey) → key.Content) : Settings :=
  ⟨content .stubDirectory, content .basePath, content .mayReplace, content .directoryMode,
    content .logLevel, content .defaults, content .project⟩

theorem get_ofContents (content : (key : SettingKey) → key.Content) (key : SettingKey) :
    (ofContents content).get key = content key := by
  cases key <;> rfl

end Settings

/-! ### Meaningful values -/

/-- A value describes a project: it is a table in which the keys of the four fields are bound to
texts and all of them are bound, or an array that begins with the texts of the fields. -/
inductive DescribesProject (project : Naming.Project) : Value → Prop where
  | table {value : Value} {entries : Entries} {bindings : List (String × String)}
      (isTable : value.entries? = some entries)
      (areTexts : entries.filter (fun entry => entry.1 ∈ Settings.projectFields) =
        Settings.texts bindings)
      (complete : ∀ field ∈ Settings.fields project,
        (Tokens.ofList bindings).get? field.1 = some field.2) :
      DescribesProject project value
  | array {growing : Bool} (rest : List Value) :
      DescribesProject project (.array growing
        ((Settings.fields project).map (fun field => .string field.2) ++ rest))

def SettingKey.Means : (key : SettingKey) → Value → key.Content → Prop
  | .stubDirectory, value, path => value = .string path
  | .basePath, value, path => value = .string path
  | .mayReplace, value, answer => value = .boolean answer
  | .directoryMode, value, mode => value = .integer mode.toNat
  | .logLevel, value, level => value = .string level
  | .defaults, value, tokens =>
      ∃ bindings, value.entries? = some (Settings.texts bindings) ∧ tokens = .ofList bindings
  | .project, value, given => ∃ named, given = some named ∧ DescribesProject named value

namespace Settings

variable {value : Value} {entries : Entries} {text : String}

theorem readText_eq_ok_iff {expected : ExpectedType} :
    readText expected value = .ok text ↔ value = .string text := by
  cases value <;> simp [readText]

theorem readBoolean_eq_ok_iff {answer : Bool} :
    readBoolean value = .ok answer ↔ value = .boolean answer := by
  cases value <;> simp [readBoolean]

theorem readWord_eq_ok_iff {word : UInt32} :
    readWord value = .ok word ↔ value = .integer word.toNat := by
  constructor
  · intro read
    cases value with
    | integer number =>
        rw [readWord] at read
        split at read
        next fits =>
          cases read
          have small : number.toNat < UInt32.size := by omega
          rw [UInt32.toNat_ofNat_of_lt' small, Int.toNat_of_nonneg fits.1]
        next => cases read
    | _ => cases read
  · intro same
    rw [same, readWord_toNat]

theorem foldlM_insert_eq_ok_iff {tokens result : Tokens} :
    entries.foldlM (fun tokens (name, entry) => do
        return tokens.insert name (← readText .string entry)) tokens =
        (.ok result : Except Mismatch Tokens) ↔
      ∃ bindings, entries = texts bindings ∧
        bindings.foldl (fun tokens binding => tokens.insert binding.1 binding.2) tokens =
          result := by
  constructor
  · intro read
    induction entries generalizing tokens with
    | nil =>
        cases read
        exact ⟨[], rfl, rfl⟩
    | cons entry entries ih =>
        obtain ⟨name, value⟩ := entry
        rw [List.foldlM_cons] at read
        obtain ⟨between, first, others⟩ := bind_eq_ok_iff.mp read
        obtain ⟨text, isText, inserted⟩ := bind_eq_ok_iff.mp first
        cases inserted
        cases readText_eq_ok_iff.mp isText
        obtain ⟨bindings, same, folded⟩ := ih others
        exact ⟨(name, text) :: bindings, by rw [same, texts, texts, List.map_cons], folded⟩
  · rintro ⟨bindings, same, folded⟩
    rw [same, foldlM_texts, folded]

theorem readTokens_eq_ok_iff {tokens : Tokens} :
    readTokens value = .ok tokens ↔ SettingKey.defaults.Means value tokens := by
  rw [readTokens, SettingKey.Means]
  cases value.entries? with
  | none => simp
  | some entries =>
      simp only [foldlM_insert_eq_ok_iff, Option.some.injEq]
      exact exists_congr fun bindings => and_congr_right fun _ => eq_comm

theorem readProjectEntries_eq_foldlM (entries : Entries) :
    readProjectEntries entries =
      (entries.filter (fun entry => entry.1 ∈ projectFields)).foldlM (fun tokens (name, entry) => do
        return tokens.insert name (← readText .string entry)) Tokens.empty := by
  rw [readProjectEntries, List.foldlM_filter]
  simp only [decide_eq_true_eq]

theorem requireField_eq_ok_iff {fields : Tokens} {name : String} :
    requireField fields name = .ok text ↔ fields.get? name = some text := by
  rw [requireField]
  cases fields.get? name <;> simp

theorem requireItem_eq_ok_iff {items : List Value} {index : Nat} :
    requireItem items index = .ok text ↔ items[index]? = some (.string text) := by
  rw [requireItem]
  cases items[index]? with
  | none => simp
  | some item => simp [readText_eq_ok_iff]

theorem assembled_eq_ok_iff
    {slug identifierPrefix textDomain rootNamespace : Except Mismatch String}
    {project : Naming.Project} :
    (do return ⟨← slug, ← identifierPrefix, ← textDomain, ← rootNamespace⟩ :
        Except Mismatch Naming.Project) = .ok project ↔
      slug = .ok project.slug ∧ identifierPrefix = .ok project.identifierPrefix ∧
        textDomain = .ok project.textDomain ∧ rootNamespace = .ok project.rootNamespace := by
  constructor
  · intro read
    obtain ⟨_, first, read⟩ := bind_eq_ok_iff.mp read
    obtain ⟨_, second, read⟩ := bind_eq_ok_iff.mp read
    obtain ⟨_, third, read⟩ := bind_eq_ok_iff.mp read
    obtain ⟨_, fourth, read⟩ := bind_eq_ok_iff.mp read
    cases read
    exact ⟨first, second, third, fourth⟩
  · intro ⟨first, second, third, fourth⟩
    rw [first, second, third, fourth]
    rfl

theorem readProject_array_eq_ok_iff {growing : Bool} {items : List Value}
    {project : Naming.Project} :
    readProject (.array growing items) = .ok project ↔
      ∃ rest, items = (fields project).map (fun field => .string field.2) ++ rest := by
  rw [readProject, assembled_eq_ok_iff]
  simp only [requireItem_eq_ok_iff]
  constructor
  · intro ⟨first, second, third, fourth⟩
    match items, first, second, third, fourth with
    | _ :: _ :: _ :: _ :: rest, rfl, rfl, rfl, rfl => exact ⟨rest, rfl⟩
  · intro ⟨rest, same⟩
    subst same
    exact ⟨rfl, rfl, rfl, rfl⟩

theorem forall_mem_fields {project : Naming.Project} {bound : String → Option String} :
    (∀ field ∈ fields project, bound field.1 = some field.2) ↔
      bound "slug" = some project.slug ∧ bound "prefix" = some project.identifierPrefix ∧
        bound "text_domain" = some project.textDomain ∧
        bound "namespace" = some project.rootNamespace := by
  simp [fields]

theorem readProject_table_eq_ok_iff {project : Naming.Project}
    (isTable : value.entries? = some entries) :
    readProject value = .ok project ↔
      ∃ bindings, entries.filter (fun entry => entry.1 ∈ projectFields) = texts bindings ∧
        ∀ field ∈ fields project, (Tokens.ofList bindings).get? field.1 = some field.2 := by
  have opened : readProject value = (do
      let fields ← readProjectEntries entries
      return ⟨← requireField fields "slug", ← requireField fields "prefix",
        ← requireField fields "text_domain", ← requireField fields "namespace"⟩) := by
    cases value with
    | array => cases isTable
    | _ => simp only [readProject, isTable]
  rw [opened, bind_eq_ok_iff]
  simp only [assembled_eq_ok_iff, readProjectEntries_eq_foldlM, foldlM_insert_eq_ok_iff,
    requireField_eq_ok_iff]
  constructor
  · intro ⟨tokens, ⟨bindings, areTexts, same⟩, complete⟩
    subst same
    exact ⟨bindings, areTexts, forall_mem_fields.mpr complete⟩
  · intro ⟨bindings, areTexts, complete⟩
    exact ⟨Tokens.ofList bindings, ⟨bindings, areTexts, rfl⟩, forall_mem_fields.mp complete⟩

theorem readProject_eq_ok_iff {project : Naming.Project} :
    readProject value = .ok project ↔ DescribesProject project value := by
  constructor
  · intro read
    cases value with
    | array growing items =>
        obtain ⟨rest, same⟩ := readProject_array_eq_ok_iff.mp read
        rw [same]
        exact .array rest
    | table origin entries =>
        obtain ⟨bindings, areTexts, complete⟩ := (readProject_table_eq_ok_iff rfl).mp read
        exact .table rfl areTexts complete
    | dateTime text =>
        obtain ⟨bindings, areTexts, complete⟩ := (readProject_table_eq_ok_iff rfl).mp read
        exact .table rfl areTexts complete
    | _ => cases read
  · intro described
    cases described with
    | table isTable areTexts complete =>
        exact (readProject_table_eq_ok_iff isTable).mpr ⟨_, areTexts, complete⟩
    | array rest => exact readProject_array_eq_ok_iff.mpr ⟨rest, rfl⟩

end Settings

/-! ### Entries of a document -/

namespace SettingKey

variable {key : SettingKey} {value : Value}

def read : (key : SettingKey) → Value → Except Mismatch key.Content
  | .stubDirectory, value => Settings.readText .path value
  | .basePath, value => Settings.readText .path value
  | .mayReplace, value => Settings.readBoolean value
  | .directoryMode, value => Settings.readWord value
  | .logLevel, value => Settings.readText .string value
  | .defaults, value => Settings.readTokens value
  | .project, value => some <$> Settings.readProject value

theorem read_eq_ok_iff {content : key.Content} :
    key.read value = .ok content ↔ key.Means value content := by
  cases key with
  | stubDirectory => exact Settings.readText_eq_ok_iff
  | basePath => exact Settings.readText_eq_ok_iff
  | mayReplace => exact Settings.readBoolean_eq_ok_iff
  | directoryMode => exact Settings.readWord_eq_ok_iff
  | logLevel => exact Settings.readText_eq_ok_iff
  | defaults => exact Settings.readTokens_eq_ok_iff
  | project =>
      simp only [read, Means, ← Settings.readProject_eq_ok_iff]
      cases Settings.readProject value with
      | error problem => simp
      | ok named => simp [eq_comm]

theorem Means.unique {content other : key.Content} (first : key.Means value content)
    (second : key.Means value other) : content = other :=
  Except.ok.inj ((read_eq_ok_iff.mpr first).symm.trans (read_eq_ok_iff.mpr second))

end SettingKey

namespace Settings

variable {start settings : Settings} {entries : Entries} {value : Value}

theorem readEntry_name (start : Settings) (key : SettingKey) (value : Value) :
    readEntry start (key.name, value) = start.set key <$> key.read value := by
  cases key with
  | project =>
      simp only [SettingKey.name, readEntry, SettingKey.read]
      cases readProject value <;> rfl
  | _ => rfl

theorem readEntry_of_unknown {name : String} (unknown : ∀ key : SettingKey, name ≠ key.name)
    (start : Settings) (value : Value) : readEntry start (name, value) = .ok start := by
  unfold readEntry
  split
  next same => exact absurd same (unknown .stubDirectory)
  next same => exact absurd same (unknown .basePath)
  next same => exact absurd same (unknown .mayReplace)
  next same => exact absurd same (unknown .directoryMode)
  next same => exact absurd same (unknown .logLevel)
  next same => exact absurd same (unknown .defaults)
  next same => exact absurd same (unknown .project)
  next => rfl

/-- What a setting holds after the entries of a document have been read: what its entry means, and
what it held before if it has none. -/
def Holds (start : Settings) (entries : Entries) (settings : Settings) (key : SettingKey) : Prop :=
  match entries.lookup key.name with
  | some value => key.Means value (settings.get key)
  | none => settings.get key = start.get key

theorem holds_of_lookup {key : SettingKey} (bound : entries.lookup key.name = some value) :
    Holds start entries settings key ↔ key.Means value (settings.get key) := by
  rw [Holds, bound]

theorem holds_of_unbound {key : SettingKey} (unbound : entries.lookup key.name = none) :
    Holds start entries settings key ↔ settings.get key = start.get key := by
  rw [Holds, unbound]

theorem holds_cons_of_ne {key : SettingKey} {name : String} (different : key.name ≠ name) :
    Holds start ((name, value) :: entries) settings key ↔ Holds start entries settings key := by
  rw [Holds, Holds, List.lookup_cons, beq_false_of_ne different]

theorem holds_set_of_ne {key given : SettingKey} (different : key ≠ given)
    (content : given.Content) :
    Holds (start.set given content) entries settings key ↔ Holds start entries settings key := by
  rw [Holds, Holds, get_set_of_ne different]

theorem forall_holds_cons {given : SettingKey} (absent : given.name ∉ entries.map Prod.fst) :
    (∀ key, Holds start ((given.name, value) :: entries) settings key) ↔
      ∃ content, given.Means value content ∧
        ∀ key, Holds (start.set given content) entries settings key := by
  constructor
  · intro held
    have means := (holds_of_lookup List.lookup_cons_self).mp (held given)
    refine ⟨settings.get given, means, fun key => ?_⟩
    by_cases same : key = given
    · subst same
      rw [holds_of_unbound (lookup_eq_none absent), get_set_self]
    · rw [holds_set_of_ne same]
      exact (holds_cons_of_ne fun named => same (SettingKey.name_injective named)).mp (held key)
  · intro ⟨content, means, held⟩ key
    by_cases same : key = given
    · subst same
      have kept := (holds_of_unbound (lookup_eq_none absent)).mp (held key)
      rw [get_set_self] at kept
      rw [holds_of_lookup List.lookup_cons_self, kept]
      exact means
    · rw [holds_cons_of_ne fun named => same (SettingKey.name_injective named),
        ← holds_set_of_ne same content]
      exact held key

/-- Every entry counts, in whatever order, because no two have the same name. -/
theorem foldlM_readEntry_eq_ok_iff (distinct : (entries.map Prod.fst).Nodup) :
    entries.foldlM readEntry start = .ok settings ↔ ∀ key, Holds start entries settings key := by
  induction entries generalizing start with
  | nil =>
      constructor
      · intro read
        cases read
        exact fun key => rfl
      · intro same
        exact congrArg Except.ok (ext_get fun key => (same key).symm)
  | cons entry entries ih =>
      obtain ⟨name, value⟩ := entry
      obtain ⟨absent, others⟩ := List.nodup_cons.mp distinct
      rw [List.foldlM_cons]
      -- An entry of a setting decides about it for good; any other entry changes nothing.
      by_cases known : ∃ key : SettingKey, name = key.name
      · obtain ⟨given, same⟩ := known
        subst same
        rw [readEntry_name, bind_map_left, bind_eq_ok_iff, forall_holds_cons absent]
        simp only [SettingKey.read_eq_ok_iff, ih others]
      · have unknown (key : SettingKey) : name ≠ key.name := fun same => known ⟨key, same⟩
        rw [readEntry_of_unknown unknown]
        refine (ih others).trans (forall_congr' fun key => ?_)
        rw [holds_cons_of_ne (unknown key).symm]

theorem ofEntries_eq_ok_iff (distinct : (entries.map Prod.fst).Nodup) :
    ofEntries entries = .ok settings ↔ ∀ key, Holds {} entries settings key :=
  foldlM_readEntry_eq_ok_iff distinct

end Settings

end Scaffold
