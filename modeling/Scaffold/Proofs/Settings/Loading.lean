import Scaffold.Proofs.Settings.Saving
import Scaffold.Proofs.Settings.Variables

/-! Settings come from the strongest layer that has them.

`ComesFrom` names the three layers of a setting: a variable, the document in the settings file, and
the default. Loading succeeds exactly if the file reads, the variables read, and the settings that
they come to can be used, wherever they come from. Main statement: `load_layers`. -/

set_option autoImplicit false

namespace Scaffold

open Toml Environment

namespace SettingKey

variable {beginning : String} {environment : Variables} {entries : Entries} {key : SettingKey}

/-- Where a setting comes from: its variable, or else the entry of a document, or else the
default. -/
inductive ComesFrom (beginning : String) (environment : Variables) (entries : Entries)
    (key : SettingKey) (content : key.Content) : Prop where
  | fromVariable {text : String} (set : key.Sets beginning environment text)
      (said : key.SaidBy text content)
  | fromDocument {value : Value} (unset : ∀ text, ¬ key.Sets beginning environment text)
      (bound : entries.lookup key.name = some value) (means : key.Means value content)
  | byDefault (unset : ∀ text, ¬ key.Sets beginning environment text)
      (unbound : entries.lookup key.name = none) (same : content = key.default)

theorem SaidBy.unique {text : String} {content other : key.Content}
    (first : key.SaidBy text content) (second : key.SaidBy text other) : content = other := by
  cases key with
  | mayReplace =>
      have found := truth?_eq_some_iff.mpr first
      exact Option.some.inj (found.symm.trans (truth?_eq_some_iff.mpr second))
  | directoryMode => exact Except.ok.inj (first.symm.trans second)
  | defaults => exact first.elim
  | project => exact first.elim
  | _ => exact first.trans second.symm

/-- The text of every variable of a setting says something for it. Texts and paths are taken as they
are, so this is about truth values and modes. -/
def AreReadable (beginning : String) (environment : Variables) : Prop :=
  ∀ (key : SettingKey) text, key.Sets beginning environment text →
    ∃ content, key.SaidBy text content

theorem areReadable_of_comesFrom (unambiguous : IsUnambiguous beginning environment)
    {settings : Settings}
    (comes : ∀ key : SettingKey, key.ComesFrom beginning environment entries (settings.get key)) :
    AreReadable beginning environment := by
  intro key text set
  cases comes key with
  | fromVariable otherSet said =>
      rw [unambiguous.text_unique set.2 otherSet.2]
      exact ⟨settings.get key, said⟩
  | fromDocument unset => exact absurd set (unset text)
  | byDefault unset => exact absurd set (unset text)

theorem ComesFrom.unique (unambiguous : IsUnambiguous beginning environment)
    {content other : key.Content} (first : key.ComesFrom beginning environment entries content)
    (second : key.ComesFrom beginning environment entries other) : content = other := by
  cases first with
  | fromVariable set said =>
      cases second with
      | fromVariable otherSet otherSaid =>
          rw [unambiguous.text_unique set.2 otherSet.2] at said
          exact said.unique otherSaid
      | fromDocument unset => exact absurd set (unset _)
      | byDefault unset => exact absurd set (unset _)
  | fromDocument unset bound means =>
      cases second with
      | fromVariable set => exact absurd set (unset _)
      | fromDocument _ otherBound otherMeans =>
          rw [bound] at otherBound
          cases otherBound
          exact means.unique otherMeans
      | byDefault _ unbound =>
          rw [bound] at unbound
          cases unbound
  | byDefault unset unbound same =>
      cases second with
      | fromVariable set => exact absurd set (unset _)
      | fromDocument _ bound =>
          rw [unbound] at bound
          cases bound
      | byDefault _ _ alike => exact same.trans alike.symm

theorem exists_comesFrom
    (said : ∀ text, key.Sets beginning environment text → ∃ content, key.SaidBy text content)
    (meant : ∀ value, entries.lookup key.name = some value → ∃ content, key.Means value content) :
    ∃ content, key.ComesFrom beginning environment entries content := by
  by_cases set : ∃ text, key.Sets beginning environment text
  · obtain ⟨text, set⟩ := set
    obtain ⟨content, said⟩ := said text set
    exact ⟨content, .fromVariable set said⟩
  · have unset : ∀ text, ¬ key.Sets beginning environment text := not_exists.mp set
    cases bound : entries.lookup key.name with
    | some value =>
        obtain ⟨content, means⟩ := meant value bound
        exact ⟨content, .fromDocument unset bound means⟩
    | none => exact ⟨key.default, .byDefault unset bound rfl⟩

/-- Laying variables over what a document says comes to the strongest layer. -/
theorem overrides_iff_comesFrom {fromFile : Settings} {content : key.Content}
    (held : Settings.Holds {} entries fromFile key) :
    key.Overrides beginning environment (fromFile.get key) content ↔
      key.ComesFrom beginning environment entries content := by
  constructor
  · intro laid
    cases laid with
    | inl set =>
        obtain ⟨text, set, said⟩ := set
        exact .fromVariable set said
    | inr kept =>
        obtain ⟨unset, same⟩ := kept
        rw [same]
        cases bound : entries.lookup key.name with
        | some value => exact .fromDocument unset bound ((Settings.holds_of_lookup bound).mp held)
        | none =>
            have untouched := (Settings.holds_of_unbound bound).mp held
            exact .byDefault unset bound (untouched.trans (Settings.get_default key))
  · intro comes
    cases comes with
    | fromVariable set said => exact .inl ⟨_, set, said⟩
    | fromDocument unset bound means =>
        exact .inr ⟨unset, means.unique ((Settings.holds_of_lookup bound).mp held)⟩
    | byDefault unset unbound same =>
        have untouched := (Settings.holds_of_unbound unbound).mp held
        exact .inr ⟨unset, same.trans (untouched.trans (Settings.get_default key)).symm⟩

end SettingKey

namespace Settings

variable {entries : Entries}

theorem exists_holds
    (typed : ∀ (key : SettingKey) value, entries.lookup key.name = some value →
      ∃ content, key.Means value content) :
    ∃ settings, ∀ key, Holds {} entries settings key := by
  have each (key : SettingKey) : ∃ content, ∀ settings : Settings,
      settings.get key = content → Holds {} entries settings key := by
    cases bound : entries.lookup key.name with
    | some value =>
        obtain ⟨content, means⟩ := typed key value bound
        exact ⟨content, fun settings same => (holds_of_lookup bound).mpr (same ▸ means)⟩
    | none => exact ⟨({} : Settings).get key, fun settings => (holds_of_unbound bound).mpr⟩
  choose content holds using each
  exact ⟨ofContents content, fun key => holds key _ (get_ofContents content key)⟩

/-- Settings can be used: a stub directory is named, and the directory mode has permission bits
only. -/
structure AreUsable (settings : Settings) : Prop where
  named : settings.stubDirectory ≠ ""
  permissions : settings.directoryMode ≤ 0o7777

end Settings

namespace SettingsSource

variable {source : SettingsSource} {environment : Variables} {tree : FileTree} {entries : Entries}
  {settings fromFile : Settings} {world : World}

/-- The settings file has these entries, in which every setting has a value of its type; it has none
if there is no regular file. -/
structure Reads (source : SettingsSource) (tree : FileTree) (entries : Entries) : Prop where
  found : (tree.isFile source.file = false ∧ entries = []) ∨
    (tree.isFile source.file = true ∧
      ∃ text, tree.readText source.file = .ok text ∧ document? text = some entries)
  typed : ∀ (key : SettingKey) value, entries.lookup key.name = some value →
    ∃ content, key.Means value content

theorem check_eq_ok_iff {checked : Settings} :
    check settings = .ok checked ↔ settings = checked ∧ settings.AreUsable := by
  constructor
  · intro done
    by_cases usable : settings.stubDirectory ≠ "" ∧ settings.directoryMode ≤ greatestMode
    · rw [check_of_usable usable.1 usable.2] at done
      exact ⟨Except.ok.inj done, usable.1, usable.2⟩
    · have unusable : settings.stubDirectory = "" ∨ greatestMode < settings.directoryMode := by
        rwa [not_and_or, not_not, UInt32.not_le] at usable
      obtain ⟨problem, failed⟩ := check_of_unusable unusable
      rw [failed] at done
      cases done
  · intro ⟨same, usable⟩
    rw [← same]
    exact check_of_usable usable.named usable.permissions

theorem complete_eq_ok_iff (unambiguous : IsUnambiguous source.beginning environment) :
    source.complete environment fromFile = .ok settings ↔
      (∀ key : SettingKey, key.Overrides source.beginning environment (fromFile.get key)
        (settings.get key)) ∧ settings.AreUsable := by
  rw [complete, bind_eq_ok_iff]
  simp only [check_eq_ok_iff, ← override_eq_ok_iff unambiguous]
  constructor
  · rintro ⟨laid, done, same, usable⟩
    rw [← same]
    exact ⟨done, usable⟩
  · rintro ⟨done, usable⟩
    exact ⟨settings, done, rfl, usable⟩

theorem ofDocument_eq_ok_iff {text : String} :
    ofDocument text = .ok settings ↔
      ∃ entries, document? text = some entries ∧ ∀ key, Settings.Holds {} entries settings key := by
  rw [ofDocument]
  cases found : document? text with
  | none => simp
  | some entries =>
      simp only [Option.some.injEq, exists_eq_left',
        ← Settings.ofEntries_eq_ok_iff (document?_distinct found)]
      cases Settings.ofEntries entries <;> simp

theorem holds_nil_iff : (∀ key, Settings.Holds {} [] settings key) ↔ settings = {} := by
  constructor
  · exact Settings.ext_get
  · intro same key
    exact congrArg (Settings.get · key) same

theorem fileLayer_eq_ok_iff :
    source.fileLayer tree = .ok fromFile ↔
      ∃ entries, source.Reads tree entries ∧ ∀ key, Settings.Holds {} entries fromFile key := by
  rw [fileLayer]
  constructor
  · intro done
    split at done
    next regular =>
      split at done
      next text read =>
        obtain ⟨entries, found, held⟩ := ofDocument_eq_ok_iff.mp done
        have typed (key : SettingKey) (value : Value)
            (bound : entries.lookup key.name = some value) : ∃ content, key.Means value content :=
          ⟨fromFile.get key, (Settings.holds_of_lookup bound).mp (held key)⟩
        exact ⟨entries, ⟨.inr ⟨regular, text, read, found⟩, typed⟩, held⟩
      next => cases done
    next missing =>
      cases done
      exact ⟨[], ⟨.inl ⟨Bool.not_eq_true _ ▸ missing, rfl⟩, fun key value bound => by cases bound⟩,
        holds_nil_iff.mpr rfl⟩
  · rintro ⟨entries, reads, held⟩
    cases reads.found with
    | inl missing =>
        obtain ⟨irregular, none⟩ := missing
        rw [none] at held
        rw [irregular, holds_nil_iff.mp held]
        rfl
    | inr present =>
        obtain ⟨regular, text, read, found⟩ := present
        rw [if_pos regular, read]
        exact ofDocument_eq_ok_iff.mpr ⟨entries, found, held⟩

theorem runIn_load_eq (source : SettingsSource) (environment : Variables) (world : World) :
    (Action.runIn world (source.load environment)).1 =
      source.fileLayer world.tree >>= source.complete environment := by
  cases layer : source.fileLayer world.tree with
  | ok fromFile => exact runIn_load source environment layer
  | error failure =>
      rw [load, Action.runIn_tree_bind, layer, Action.runIn_bind, Action.runIn_ofExcept]
      rfl

/-- Loading gives settings exactly if the file reads, the variables read and the settings can be
used; then each setting comes from its variable, or else from the file, or else is the default. If
file and variables read, there is one choice of settings that come from these layers. -/
theorem load_layers (source : SettingsSource) (environment : Variables) (world : World)
    (unambiguous : IsUnambiguous source.beginning environment) :
    (∀ settings, (Action.runIn world (source.load environment)).1 = .ok settings ↔
        ∃ entries, source.Reads world.tree entries ∧
          SettingKey.AreReadable source.beginning environment ∧
          (∀ key : SettingKey,
            key.ComesFrom source.beginning environment entries (settings.get key)) ∧
          settings.stubDirectory ≠ "" ∧ settings.directoryMode ≤ 0o7777) ∧
      ∀ entries, source.Reads world.tree entries →
        SettingKey.AreReadable source.beginning environment →
        ∃! merged : Settings, ∀ key : SettingKey,
          key.ComesFrom source.beginning environment entries (merged.get key) := by
  constructor
  · intro settings
    rw [runIn_load_eq, bind_eq_ok_iff]
    simp only [fileLayer_eq_ok_iff, complete_eq_ok_iff unambiguous]
    constructor
    · intro ⟨fromFile, ⟨entries, reads, held⟩, laid, usable⟩
      have comes (key : SettingKey) :=
        (SettingKey.overrides_iff_comesFrom (held key)).mp (laid key)
      have readable := SettingKey.areReadable_of_comesFrom unambiguous comes
      exact ⟨entries, reads, readable, comes, usable.named, usable.permissions⟩
    · intro ⟨entries, reads, _, comes, named, permissions⟩
      obtain ⟨fromFile, held⟩ := Settings.exists_holds reads.typed
      have laid (key : SettingKey) :=
        (SettingKey.overrides_iff_comesFrom (held key)).mpr (comes key)
      exact ⟨fromFile, ⟨entries, reads, held⟩, laid, named, permissions⟩
  · intro entries reads readable
    have each (key : SettingKey) := SettingKey.exists_comesFrom (readable key) (reads.typed key)
    choose content comes using each
    refine ⟨.ofContents content, fun key => ?_, fun other otherComes => ?_⟩
    · rw [Settings.get_ofContents]
      exact comes key
    · apply Settings.ext_get
      intro key
      rw [Settings.get_ofContents]
      exact (otherComes key).unique unambiguous (comes key)

/-- A settings file that sets three settings and something else. -/
def layeredWorld : World :=
  World.ofTree (FileTree.fresh.place [Text.encode "c.toml", Text.encode "w"] (.file
    ("stub_dir = 's'\ndir_mode = 0o700\nspare = [1]\n" ++
      "[project]\nslug = 'a'\nprefix = 'b'\ntext_domain = 'c'\nnamespace = 'd'\n").toUTF8))

def layeredSource : SettingsSource := ⟨Path.ofString "c.toml", "STUBFORGE"⟩

def layeredVariables : Variables :=
  [("HOME", "/home"), ("Stubforge_Overwrite", "YES"), ("STUBFORGE_DIR_MODE", " 0750"),
    ("STUBFORGE_PROJECT", "none"), ("STUBFORGE", "x")]

def layeredSettings : Settings where
  stubDirectory := "s"
  mayReplace := true
  directoryMode := 0o750
  project := some ⟨"a", "b", "c", "d"⟩

theorem load_layers_layeredWorld :
    IsUnambiguous "STUBFORGE" layeredVariables ∧
      (Action.runIn layeredWorld (layeredSource.load layeredVariables)).1 = .ok layeredSettings ∧
      ∃ entries, layeredSource.Reads layeredWorld.tree entries ∧
        ∀ key : SettingKey,
          key.ComesFrom "STUBFORGE" layeredVariables entries (layeredSettings.get key) := by
  have unambiguous : IsUnambiguous "STUBFORGE" layeredVariables :=
    ⟨by decide +kernel, by decide +kernel⟩
  have loaded : (Action.runIn layeredWorld (layeredSource.load layeredVariables)).1 =
      .ok layeredSettings := by
    decide +kernel
  obtain ⟨exactly, -⟩ := load_layers layeredSource layeredVariables layeredWorld unambiguous
  obtain ⟨entries, reads, -, comes, -⟩ := (exactly layeredSettings).mp loaded
  exact ⟨unambiguous, loaded, entries, reads, comes⟩

end SettingsSource

end Scaffold
