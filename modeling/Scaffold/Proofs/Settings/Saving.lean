import Scaffold.Proofs.Settings.SavingEffect
import Scaffold.Proofs.Settings.Variables

/-! Settings that are saved are loaded again.

The environment is the stronger layer, so this is said for an environment in which no variable
belongs to a setting. Main statement: `load_of_saved`. -/

set_option autoImplicit false

namespace Scaffold

open FileTree

namespace Environment

variable {beginning : String} {environment : Variables}

def IsClear (beginning : String) (environment : Variables) : Prop :=
  ∀ binding ∈ environment, settingName? beginning binding.1 = none

instance (beginning : String) (environment : Variables) :
    Decidable (IsClear beginning environment) :=
  inferInstanceAs (Decidable (∀ binding ∈ environment, settingName? beginning binding.1 = none))

theorem IsClear.isUnambiguous (clear : IsClear beginning environment) :
    IsUnambiguous beginning environment := by
  have none : own beginning environment = [] := by
    rw [own, List.filter_eq_nil_iff]
    intro binding member
    rw [clear binding member]
    exact Bool.false_ne_true
  constructor
  · intro binding member
    rw [none] at member
    cases member
  · rw [none]
    exact List.nodup_nil

theorem override_of_isClear (clear : IsClear beginning environment) (settings : Settings) :
    override beginning environment settings = .ok settings := by
  refine (override_eq_ok_iff clear.isUnambiguous).mpr fun key => .inr ⟨?_, rfl⟩
  intro text set
  obtain ⟨binding, member, named, -⟩ := set.2
  have other := clear binding member
  rw [settingName?_eq_some_iff.mpr named] at other
  cases other

end Environment

namespace SettingsSource

variable {source : SettingsSource} {settings : Settings} {world next : World}

theorem fileLayer_of_saved {reader : SettingsSource} (same : reader.file = source.file)
    (saved : Action.runIn world (source.save settings) = (.ok (), next)) :
    reader.fileLayer next.tree = .ok settings := by
  obtain ⟨prepared, -, wrote⟩ := save_ok saved
  obtain ⟨location, put⟩ := writeWhole_putInPlace wrote
  have regular : next.tree.isFile source.file = true := by
    rw [isFile, put.leads]
  rw [fileLayer, same, if_pos regular, readText_of_find? put.leads]
  exact ofDocument_written settings

theorem runIn_load (source : SettingsSource) (environment : Environment.Variables)
    (fromFile : source.fileLayer world.tree = .ok settings) :
    (Action.runIn world (source.load environment)).1 =
      source.complete environment settings := by
  rw [load, Action.runIn_tree_bind, fromFile, Action.runIn_bind, Action.runIn_ofExcept]
  simp only
  rw [Action.runIn_bind, Action.runIn_report]
  simp only [Action.runIn_ofExcept]

theorem check_of_usable (named : settings.stubDirectory ≠ "")
    (valid : settings.directoryMode ≤ greatestMode) : check settings = .ok settings := by
  have free : settings.problem? = none := by
    rw [Settings.problem?, if_neg named, if_neg (UInt32.not_lt.mpr valid)]
  rw [check, free]

theorem check_of_unusable
    (unusable : settings.stubDirectory = "" ∨ greatestMode < settings.directoryMode) :
    ∃ problem, check settings = .error (.unusable problem) := by
  rw [check, Settings.problem?]
  by_cases unnamed : settings.stubDirectory = ""
  · rw [if_pos unnamed]
    exact ⟨_, rfl⟩
  · rw [if_neg unnamed, if_pos (unusable.resolve_left unnamed)]
    exact ⟨_, rfl⟩

/-- Settings that were saved are loaded from the same file if they can be used, and else refused
because they cannot. -/
theorem load_of_saved {reader : SettingsSource} {environment : Environment.Variables}
    (same : reader.file = source.file)
    (clear : Environment.IsClear reader.beginning environment)
    (saved : Action.runIn world (source.save settings) = (.ok (), next)) :
    (settings.stubDirectory ≠ "" → settings.directoryMode ≤ greatestMode →
        (Action.runIn next (reader.load environment)).1 = .ok settings) ∧
      (settings.stubDirectory = "" ∨ greatestMode < settings.directoryMode →
        ∃ problem,
          (Action.runIn next (reader.load environment)).1 = .error (.unusable problem)) := by
  have loaded : (Action.runIn next (reader.load environment)).1 = check settings := by
    rw [runIn_load reader environment (fileLayer_of_saved same saved), complete,
      Environment.override_of_isClear clear]
    rfl
  rw [loaded]
  exact ⟨check_of_usable, check_of_unusable⟩

/-- Settings with texts that need every form of string and of key. -/
def crookedSettings : Settings where
  stubDirectory := "\"\"\"'''\n\u0007\\"
  basePath := "it's \"here\""
  directoryMode := 0o7777
  logLevel := "\n''"
  defaults := .ofList [("", "a\r\n"), ("a.b", "\"'"), ("\n", "\\"), ("plain", "\t"), ("\"", "")]
  project := some ⟨"s", "\"\"\"\"\"\n", "'''", "\\'"⟩

theorem load_of_saved_crookedSettings :
    ∃ next,
      Action.runIn (.ofTree fresh) ((⟨Path.ofString "c.toml", "A"⟩ : SettingsSource).save
          crookedSettings) = (.ok (), next) ∧
        Environment.IsClear "STUBFORGE" [("HOME", "/home"), ("STUB_DIR", "x")] ∧
        (Action.runIn next ((⟨Path.ofString "c.toml", "STUBFORGE"⟩ : SettingsSource).load
          [("HOME", "/home"), ("STUB_DIR", "x")])).1 = .ok crookedSettings := by
  have clear : Environment.IsClear "STUBFORGE" [("HOME", "/home"), ("STUB_DIR", "x")] := by
    decide +kernel
  have done : (Action.runIn (.ofTree fresh) ((⟨Path.ofString "c.toml", "A"⟩ : SettingsSource).save
      crookedSettings)).1 = .ok () := by
    decide +kernel
  rcases saved : Action.runIn (.ofTree fresh) ((⟨Path.ofString "c.toml", "A"⟩ :
    SettingsSource).save crookedSettings) with ⟨answer, next⟩
  rw [saved] at done
  cases done
  have same : (⟨Path.ofString "c.toml", "STUBFORGE"⟩ : SettingsSource).file =
      (⟨Path.ofString "c.toml", "A"⟩ : SettingsSource).file := rfl
  exact ⟨next, rfl, clear, (load_of_saved same clear saved).1 (by decide) (by decide)⟩

end SettingsSource

end Scaffold
