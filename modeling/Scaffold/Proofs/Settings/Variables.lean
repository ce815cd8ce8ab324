import Mathlib.Data.List.Induction
import Scaffold.Proofs.Settings.Keys
import Scaffold.Proofs.Text.LowerCase

/-! Settings that variables set.

If no name of the given beginning continues a key and no two of them are the same in lower case, the
variables of that beginning are plain bindings: a setting has at most one text, and which one does
not depend on the order of the variables. Main statement: `override_eq_ok_iff`. -/

set_option autoImplicit false

namespace Scaffold

namespace Environment

variable {beginning : String} {environment : Variables} {key name value rest text : String}

def own (beginning : String) (environment : Variables) : Variables :=
  environment.filter fun binding => (settingName? beginning binding.1).isSome

def IsPlain (name : String) : Prop := '.' ∉ name.toList ∧ '[' ∉ name.toList

instance (name : String) : Decidable (IsPlain name) :=
  inferInstanceAs (Decidable ('.' ∉ name.toList ∧ '[' ∉ name.toList))

/-- The variables of the given beginning have plain names, and no two of them have the same name in
lower case. -/
structure IsUnambiguous (beginning : String) (environment : Variables) : Prop where
  plain : ∀ binding ∈ own beginning environment, IsPlain binding.1
  distinct : ((own beginning environment).map fun binding => Unicode.lower binding.1).Nodup

def Binds (beginning : String) (environment : Variables) (key text : String) : Prop :=
  ∃ binding ∈ environment,
    Unicode.lower binding.1 = Unicode.lower (beginning ++ "_") ++ key ∧ binding.2 = text

/-! ### Names of variables -/

theorem settingName?_eq_some_iff :
    settingName? beginning name = some rest ↔
      Unicode.lower name = Unicode.lower (beginning ++ "_") ++ rest := by
  rw [settingName?]
  constructor
  · intro found
    split at found
    next begins =>
      apply String.toList_inj.mp
      rw [← Option.some.inj found, String.toList_append, String.toList_ofList]
      exact (List.prefix_iff_eq_append.mp (List.isPrefixOf_iff_prefix.mp begins)).symm
    next => cases found
  · intro same
    have begins := List.isPrefixOf_iff_prefix.mpr
      (List.prefix_append (Unicode.lower (beginning ++ "_")).toList rest.toList)
    rw [same, String.toList_append, if_pos begins, List.drop_left, String.ofList_toList]

theorem mem_own {binding : String × String} (member : binding ∈ environment)
    (named : settingName? beginning binding.1 = some rest) :
    binding ∈ own beginning environment := by
  rw [own, List.mem_filter, named]
  exact ⟨member, rfl⟩

theorem IsUnambiguous.text_unique (unambiguous : IsUnambiguous beginning environment)
    {other : String} (first : Binds beginning environment key text)
    (second : Binds beginning environment key other) : text = other := by
  obtain ⟨binding, member, named, same⟩ := first
  obtain ⟨twin, present, alike, equal⟩ := second
  have identical : binding = twin := List.inj_on_of_nodup_map unambiguous.distinct
    (mem_own member (settingName?_eq_some_iff.mpr named))
    (mem_own present (settingName?_eq_some_iff.mpr alike)) (named.trans alike.symm)
  rw [← same, ← equal, identical]

theorem eq_of_isContinuation {fuel : Nat} {c : Char} {text : List Char}
    (continued : isContinuation (fuel + 1) (c :: text) = true) : c = '.' ∨ c = '[' := by
  unfold isContinuation at continued
  split at continued
  next empty => cases empty
  next dot => exact .inl (List.cons.inj dot).1
  next bracket => exact .inr (List.cons.inj bracket).1
  next => cases continued

theorem shape_eq (undotted : '.' ∉ rest.toList) (unbracketed : '[' ∉ rest.toList)
    (value : String) : shape rest value = (rest, .text value) := by
  have later (c : Char) (member : c ∈ rest.toList.dropWhile isPartChar) : c ∈ rest.toList :=
    (List.dropWhile_sublist isPartChar).mem member
  rw [shape]
  split
  next continued =>
    cases split : rest.toList.dropWhile isPartChar with
    | nil =>
        have whole := List.takeWhile_append_dropWhile (p := isPartChar) (l := rest.toList)
        rw [split, List.append_nil] at whole
        simp only [whole, String.ofList_toList]
    | cons c after =>
        rw [split] at continued later
        have present := later c List.mem_cons_self
        cases eq_of_isContinuation continued with
        | inl dot => exact absurd (dot ▸ present) undotted
        | inr bracket => exact absurd (bracket ▸ present) unbracketed
  next => rfl

/-- What the rest of a plain name makes of a key: nothing but a text for itself. -/
theorem shape_of_settingName? (plain : IsPlain name)
    (own : settingName? beginning name = some rest) (value : String) :
    shape rest value = (rest, .text value) := by
  have lowered := settingName?_eq_some_iff.mp own
  have absent (c : Char) (below : c.toNat < 0x61) (valid : c ≠ '\x00') (unnamed : c ∉ name.toList) :
      c ∉ rest.toList := by
    intro member
    apply unnamed
    apply Unicode.mem_of_mem_lower below valid
    rw [lowered, String.toList_append]
    exact List.mem_append_right _ member
  exact shape_eq (absent '.' (by decide) (by decide) plain.1)
    (absent '[' (by decide) (by decide) plain.2) value

/-! ### Texts of keys -/

theorem not_binds_nil (text : String) : ¬ Binds beginning [] key text := by
  intro ⟨binding, member, _⟩
  cases member

theorem binds_append_singleton_iff :
    Binds beginning (environment ++ [(name, value)]) key text ↔
      Binds beginning environment key text ∨
        settingName? beginning name = some key ∧ value = text := by
  simp only [Binds, settingName?_eq_some_iff, List.mem_append, List.mem_singleton, or_and_right,
    exists_or, exists_eq_left]

/-- The last variable decides about its own key and about no other. -/
theorem find?_append_singleton
    (plain : ∀ rest, settingName? beginning name = some rest → IsPlain name)
    (environment : Variables) (value key : String) :
    find? beginning (environment ++ [(name, value)]) key =
      if settingName? beginning name = some key then some (.text value)
      else find? beginning environment key := by
  rw [find?, List.foldl_append, ← find?]
  simp only [List.foldl_cons, List.foldl_nil]
  cases named : settingName? beginning name with
  | none => rfl
  | some rest => simp only [shape_of_settingName? (plain rest named) named, Option.some.injEq]

/-- A key that has no variable is not found, and one that has is found with the text of one. -/
theorem find?_cases (plain : ∀ binding ∈ own beginning environment, IsPlain binding.1)
    (key : String) :
    ((∀ text, ¬ Binds beginning environment key text) ∧ find? beginning environment key = none) ∨
      ∃ text, Binds beginning environment key text ∧
        find? beginning environment key = some (.text text) := by
  -- By induction from the end, because of several variables of a key the last one counts.
  induction environment using List.reverseRecOn with
  | nil => exact .inl ⟨not_binds_nil, rfl⟩
  | append_singleton environment binding ih =>
      obtain ⟨name, value⟩ := binding
      have plainName (rest : String) (named : settingName? beginning name = some rest) :
          IsPlain name := plain (name, value) (mem_own List.mem_concat_self named)
      have plainBefore : ∀ binding ∈ own beginning environment, IsPlain binding.1 := by
        intro binding member
        apply plain binding
        rw [own, List.filter_append]
        exact List.mem_append_left _ member
      simp only [binds_append_singleton_iff, find?_append_singleton plainName]
      by_cases named : settingName? beginning name = some key
      · rw [if_pos named]
        exact .inr ⟨value, .inr ⟨named, rfl⟩, rfl⟩
      · rw [if_neg named]
        simpa only [named, false_and, or_false] using ih plainBefore

def truthWords : Bool → List String
  | true => ["1", "true", "on", "yes"]
  | false => ["0", "false", "off", "no"]

theorem truth?_eq_some_iff {word : String} {answer : Bool} :
    truth? word = some answer ↔ word ∈ truthWords answer := by
  constructor
  · intro found
    unfold truth? at found
    split at found
    all_goals cases found
    all_goals decide
  · intro member
    cases answer
    all_goals
      simp only [truthWords, List.mem_cons, List.not_mem_nil, or_false] at member
      obtain rfl | rfl | rfl | rfl := member
    all_goals rfl

end Environment

/-! ### Settings -/

namespace SettingKey

open Environment

variable {beginning : String} {environment : Variables} {key : SettingKey} {text : String}

def takesVariables : SettingKey → Bool
  | .defaults => false
  | .project => false
  | _ => true

def SaidBy : (key : SettingKey) → String → key.Content → Prop
  | .stubDirectory, text, path => path = text
  | .basePath, text, path => path = text
  | .mayReplace, text, answer => Unicode.lower text ∈ truthWords answer
  | .directoryMode, text, mode => Mode.read text = .ok mode
  | .logLevel, text, level => level = text
  | .defaults, _, _ => False
  | .project, _, _ => False

def fromVariables (beginning : String) (environment : Variables) :
    (key : SettingKey) → Except SettingsFailure (Option key.Content)
  | .stubDirectory => text? beginning environment (name .stubDirectory)
  | .basePath => text? beginning environment (name .basePath)
  | .mayReplace => boolean? beginning environment (name .mayReplace)
  | .directoryMode => mode? beginning environment (name .directoryMode)
  | .logLevel => text? beginning environment (name .logLevel)
  | .defaults => .ok none
  | .project => .ok none

theorem fromVariables_of_missing (missing : find? beginning environment key.name = none) :
    key.fromVariables beginning environment = .ok none := by
  cases key with
  | mayReplace => rw [fromVariables, boolean?, missing]
  | directoryMode =>
      rw [fromVariables, mode?, text?, missing]
      rfl
  | defaults => rfl
  | project => rfl
  | _ => rw [fromVariables, text?, missing]

theorem fromVariables_of_found (takes : key.takesVariables)
    (found : find? beginning environment key.name = some (.text text))
    {content : Option key.Content} :
    key.fromVariables beginning environment = .ok content ↔
      ∃ said, key.SaidBy text said ∧ content = some said := by
  cases key with
  | mayReplace =>
      rw [fromVariables, boolean?, found]
      simp only [SaidBy, ← truth?_eq_some_iff]
      cases truth? (Unicode.lower text) <;> simp [eq_comm]
  | directoryMode =>
      rw [fromVariables, mode?, text?, found]
      simp only [SaidBy, bind, Except.bind]
      cases Mode.read text with
      | ok mode => simp [pure, Except.pure, eq_comm]
      | error problem => simp [throw, throwThe, MonadExceptOf.throw]
  | defaults => cases takes
  | project => cases takes
  | _ =>
      rw [fromVariables, text?, found]
      simp [SaidBy, eq_comm]

def Sets (beginning : String) (environment : Variables) (key : SettingKey) (text : String) : Prop :=
  key.takesVariables ∧ Binds beginning environment key.name text

/-- What a setting comes to when variables are laid over what it held: the variable of the setting
decides if there is one. -/
def Overrides (beginning : String) (environment : Variables) (key : SettingKey)
    (before after : key.Content) : Prop :=
  (∃ text, key.Sets beginning environment text ∧ key.SaidBy text after) ∨
    ((∀ text, ¬ key.Sets beginning environment text) ∧ after = before)

theorem overrides_of_unset (unset : ∀ text, ¬ key.Sets beginning environment text)
    (read : key.fromVariables beginning environment = .ok none) {before after : key.Content} :
    key.Overrides beginning environment before after ↔
      ∃ content, key.fromVariables beginning environment = .ok content ∧
        after = content.getD before := by
  simp [Overrides, unset, read]

theorem overrides_iff (unambiguous : IsUnambiguous beginning environment)
    {before after : key.Content} :
    key.Overrides beginning environment before after ↔
      ∃ content, key.fromVariables beginning environment = .ok content ∧
        after = content.getD before := by
  by_cases takes : key.takesVariables
  · cases find?_cases unambiguous.plain key.name with
    | inl missing =>
        obtain ⟨unbound, missing⟩ := missing
        exact overrides_of_unset (fun text set => unbound text set.2)
          (fromVariables_of_missing missing)
    | inr found =>
        obtain ⟨text, bound, found⟩ := found
        simp only [fromVariables_of_found takes found]
        constructor
        · intro laid
          cases laid with
          | inl set =>
              obtain ⟨other, set, said⟩ := set
              rw [unambiguous.text_unique bound set.2]
              exact ⟨some after, ⟨after, said, rfl⟩, rfl⟩
          | inr kept => exact absurd ⟨takes, bound⟩ (kept.1 text)
        · intro ⟨content, ⟨said, means, read⟩, same⟩
          rw [same, read]
          exact .inl ⟨text, ⟨takes, bound⟩, means⟩
  · have read : key.fromVariables beginning environment = .ok none := by
      cases key with
      | defaults => rfl
      | project => rfl
      | _ => exact absurd rfl takes
    exact overrides_of_unset (fun text set => takes set.1) read

end SettingKey

theorem Environment.override_eq_ok_iff {beginning : String} {environment : Variables}
    (unambiguous : IsUnambiguous beginning environment) {before after : Settings} :
    override beginning environment before = .ok after ↔
      ∀ key : SettingKey,
        key.Overrides beginning environment (before.get key) (after.get key) := by
  simp only [SettingKey.overrides_iff unambiguous]
  constructor
  · intro done key
    obtain ⟨stubDirectory, first, done⟩ := bind_eq_ok_iff.mp done
    obtain ⟨basePath, second, done⟩ := bind_eq_ok_iff.mp done
    obtain ⟨mayReplace, third, done⟩ := bind_eq_ok_iff.mp done
    obtain ⟨directoryMode, fourth, done⟩ := bind_eq_ok_iff.mp done
    obtain ⟨logLevel, fifth, done⟩ := bind_eq_ok_iff.mp done
    rw [← Except.ok.inj done]
    cases key with
    | stubDirectory => exact ⟨stubDirectory, first, rfl⟩
    | basePath => exact ⟨basePath, second, rfl⟩
    | mayReplace => exact ⟨mayReplace, third, rfl⟩
    | directoryMode => exact ⟨directoryMode, fourth, rfl⟩
    | logLevel => exact ⟨logLevel, fifth, rfl⟩
    | defaults => exact ⟨none, rfl, rfl⟩
    | project => exact ⟨none, rfl, rfl⟩
  · intro laid
    choose content read same using laid
    have defaults : content .defaults = none := (Except.ok.inj (read .defaults)).symm
    have project : content .project = none := (Except.ok.inj (read .project)).symm
    refine bind_eq_ok_iff.mpr ⟨_, read .stubDirectory, bind_eq_ok_iff.mpr ⟨_, read .basePath,
      bind_eq_ok_iff.mpr ⟨_, read .mayReplace, bind_eq_ok_iff.mpr ⟨_, read .directoryMode,
        bind_eq_ok_iff.mpr ⟨_, read .logLevel, ?_⟩⟩⟩⟩⟩
    apply congrArg Except.ok
    apply Settings.ext_get
    intro key
    rw [same key]
    cases key with
    | defaults => rw [defaults]; rfl
    | project => rw [project]; rfl
    | _ => rfl

end Scaffold
