import DockCheck.Proofs.Schema
import DockCheck.Settings

/-!
# Settings and variables

`Settings.AreOf` says of settings that each of them is what its variable of the environment says, or
what is usual where there is no such variable.  Loading gives just these settings
(`load_eq_ok_iff`), so that they depend on the environment through the values of six variables only.

Environments that differ in some variables at most (`SameBut`) make settings that differ at most in
these: in the level of the log (`eq_of_sameBut_logLevel`), or in the policies, where variables of
them are left out (`load_without_policyVariables`) or put in (`load_append_precision`,
`load_append_policy`).
-/

namespace DockCheck

namespace Settings

open Schema

/-! ### The values of variables -/

/-- The variable of a setting other than the Dockerfile, by its name in lower case. -/
def variableOf (key : Text) : Text := variableStart ++ key

/-- The settings of an environment without variables. -/
def usual : Settings where
  dockerfile := Path.ofText "cosmos/Dockerfile"
  standards := Path.ofText "managed_files/standards.json"
  tools := none
  precision := none
  policy := none
  logLevel := .warning

/-- Each setting is what its variable says, or what is usual. -/
structure AreOf (environment : List (Text × Text)) (settings : Settings) : Prop where
  dockerfile : settings.dockerfile
    = ((valueIn? environment "dockerfile_path").map Path.ofText).getD usual.dockerfile
  standards : settings.standards
    = ((valueIn? environment (variableOf "standards_path")).map Path.ofText).getD usual.standards
  tools : settings.tools = (valueIn? environment (variableOf "tools_path")).map Path.ofText
  precision : settings.precision.map Precision.name
    = valueIn? environment (variableOf "version_precision")
  policy : settings.policy.map MatchPolicy.name
    = valueIn? environment (variableOf "version_match")
  logLevel : settings.logLevel.name
    = ((valueIn? environment (variableOf "log_level")).map Text.upper).getD usual.logLevel.name

variable {environment : List (Text × Text)}

lemma lookup_filterMap (value : Text → Option Data) (keys : List Text) (key : Text) :
    (keys.filterMap fun key => (value key).map (key, ·)).lookup key
      = if key ∈ keys then value key else none := by
  induction keys with
  | nil => rfl
  | cons other keys ih =>
    by_cases hkey : key = other
    · subst hkey
      cases hvalue : value key with
      | none => simp [hvalue, ih]
      | some found => simp [hvalue]
    · have hne : (key == other) = false := by simpa using hkey
      cases hvalue : value other with
      | none => simp [hvalue, ih, hkey]
      | some found => simp [hvalue, List.lookup_cons, hne, ih, hkey]

/-- The values of the settings without any that are given directly. -/
lemma values_nil (environment : List (Text × Text)) :
    values environment [] = ofEnvironment environment := by
  have hdirect : ofGiven [] = [] := rfl
  unfold values
  dsimp only
  rw [hdirect]
  simp

lemma ofEnvironment_eq (environment : List (Text × Text)) :
    ofEnvironment environment
      = ((valueIn? environment "dockerfile_path").map fun t => (dockerfileKey, Data.text t)).toList
        ++ otherKeys.filterMap fun key =>
          ((valueIn? environment (variableOf key)).map Data.text).map (key, ·) := by
  have hname : comparedName dockerfileKey = "dockerfile_path" := by decide
  simp only [ofEnvironment, hname, Option.map_map]
  rfl

lemma lookup_dockerfileKey (environment : List (Text × Text)) :
    (ofEnvironment environment).lookup dockerfileKey
      = (valueIn? environment "dockerfile_path").map .text := by
  rw [ofEnvironment_eq, List.lookup_append, lookup_filterMap, if_neg (by decide)]
  cases valueIn? environment "dockerfile_path" <;> simp

lemma lookup_of_mem_otherKeys {key : Text} (h : key ∈ otherKeys)
    (environment : List (Text × Text)) :
    (ofEnvironment environment).lookup key
      = (valueIn? environment (variableOf key)).map .text := by
  have hne : key ≠ dockerfileKey := by
    rintro rfl
    revert h
    decide
  rw [ofEnvironment_eq, List.lookup_append, lookup_filterMap, if_pos h]
  have hne' : (key == dockerfileKey) = false := by simpa using hne
  cases valueIn? environment "dockerfile_path" <;> simp [List.lookup_cons, hne']

/-- No variable makes an entry that is no setting. -/
lemma refuseOthers_ofEnvironment (environment : List (Text × Text)) :
    refuseOthers [] (ofEnvironment environment) = .ok () := by
  have hkeys : ∀ entry ∈ ofEnvironment environment,
      entry.1 = dockerfileKey ∨ entry.1 ∈ otherKeys := by
    intro entry hmem
    rw [ofEnvironment_eq, List.mem_append, Option.mem_toList, List.mem_filterMap] at hmem
    rcases hmem with hmem | ⟨key, hkey, hmem⟩
    · obtain ⟨t, -, rfl⟩ := Option.map_eq_some_iff.mp hmem
      exact Or.inl rfl
    · obtain ⟨t, -, rfl⟩ := Option.map_eq_some_iff.mp hmem
      exact Or.inr hkey
  have hnone : ((ofEnvironment environment).filter fun entry =>
      entry.1 != dockerfileKey && !otherKeys.contains entry.1) = [] := by
    rw [List.filter_eq_nil_iff]
    intro entry hmem
    rcases hkeys entry hmem with h | h <;> simp [h]
  unfold refuseOthers
  rw [hnone]

/-! ### The fields of settings -/

section Fields

variable {entries : List (Text × Data)} {key : Text} {t : Option Text}
  (h : entries.lookup key = t.map .text)

include h

lemma fieldOr_path_eq_ok_iff {usual a : Path} :
    fieldOr usual [key] path [] entries = .ok a ↔ a = (t.map Path.ofText).getD usual := by
  rw [fieldOr_of_lookup h]
  cases t <;> simp [path, eq_comm]

lemma fieldOr_optionalPath_eq_ok_iff {a : Option Path} :
    fieldOr none [key] (optional path) [] entries = .ok a ↔ a = t.map Path.ofText := by
  rw [fieldOr_of_lookup h]
  cases t with
  | none => simp [eq_comm]
  | some t =>
    dsimp only
    rw [optional_text_eq_ok_iff]
    simp [path]

lemma fieldOr_optionalChoice_eq_ok_iff {α : Type} {all : List α} {name : α → Text}
    (hall : ∀ a, (all.find? fun b => name b == name a) = some a) {a : Option α} :
    fieldOr none [key] (optional (choice all name)) [] entries = .ok a ↔ a.map name = t := by
  rw [fieldOr_of_lookup h]
  cases t with
  | none => cases a <;> simp
  | some t =>
    dsimp only
    rw [optional_text_eq_ok_iff]
    simp only [choice_text_eq_ok_iff hall]
    cases a <;> simp [eq_comm]

lemma fieldOr_logLevel_eq_ok_iff {a : LogLevel} :
    fieldOr .warning [key] logLevelOf [] entries = .ok a
      ↔ a.name = (t.map Text.upper).getD LogLevel.warning.name := by
  have hall : ∀ a, (LogLevel.all.find? fun b => b.name == a.name) = some a := by
    intro a
    cases a <;> decide
  rw [fieldOr_of_lookup h]
  cases t with
  | none =>
    have hname : a.name = LogLevel.warning.name ↔ a = .warning := by
      cases a <;> decide
    simp [hname, eq_comm]
  | some t => exact choice_text_eq_ok_iff hall

end Fields

lemma load_eq_ok_iff_ofEntries {settings : Settings} :
    load environment = .ok settings
      ↔ ofEntries [] (ofEnvironment environment) = .ok settings := by
  rw [load, make, values_nil]
  cases ofEntries [] (ofEnvironment environment) <;> simp [Checked.titled, Except.mapError]

/-- Loading gives settings exactly if each of them is what its variable says, or what is usual. -/
theorem load_eq_ok_iff {settings : Settings} :
    load environment = .ok settings ↔ AreOf environment settings := by
  have hother : ∀ key ∈ otherKeys, (ofEnvironment environment).lookup key
      = (valueIn? environment (variableOf key)).map .text := fun key h =>
    lookup_of_mem_otherKeys h environment
  have hstandards := hother "standards_path" (by decide)
  have htools := hother "tools_path" (by decide)
  have hprecision := hother "version_precision" (by decide)
  have hpolicy := hother "version_match" (by decide)
  have hlogLevel := hother "log_level" (by decide)
  rw [load_eq_ok_iff_ofEntries]
  simp only [ofEntries, Checked.and_eq_ok_iff, refuseOthers_ofEnvironment,
    fieldOr_path_eq_ok_iff (lookup_dockerfileKey environment), fieldOr_path_eq_ok_iff hstandards,
    fieldOr_optionalPath_eq_ok_iff htools,
    fieldOr_optionalChoice_eq_ok_iff hprecision Precision.ofName?_name,
    fieldOr_optionalChoice_eq_ok_iff hpolicy MatchPolicy.ofName?_name,
    fieldOr_logLevel_eq_ok_iff hlogLevel, Checked.ok.injEq]
  constructor
  · rintro ⟨-, ⟨-, ⟨-, ⟨-, ⟨-, ⟨-, ⟨-, rfl, dockerfile, hdockerfile, rfl⟩, standards, hstandards,
      rfl⟩, tools, htools, rfl⟩, precision, hprecision, rfl⟩, policy, hpolicy, rfl⟩, logLevel,
      hlogLevel, rfl⟩, -, -, rfl⟩
    exact ⟨hdockerfile, hstandards, htools, hprecision, hpolicy, hlogLevel⟩
  · intro h
    exact ⟨_, ⟨_, ⟨_, ⟨_, ⟨_, ⟨_, ⟨_, rfl, _, h.dockerfile, rfl⟩, _, h.standards, rfl⟩, _, h.tools,
      rfl⟩, _, h.precision, rfl⟩, _, h.policy, rfl⟩, _, h.logLevel, rfl⟩, (), trivial, rfl⟩

/-- An environment without variables makes the usual settings. -/
lemma load_nil : load [] = .ok usual := load_eq_ok_iff.mpr ⟨rfl, rfl, rfl, rfl, rfl, rfl⟩

/-! ### Environments that differ in some variables -/

/-- Two environments differ in the variables with these names at most, in whatever letter case. -/
def SameBut (names : List Text) (environment other : List (Text × Text)) : Prop :=
  ∀ name, name ∉ names → valueIn? environment name = valueIn? other name

/-- The environment without the variables with these names, in whatever letter case. -/
def without (names : List Text) (environment : List (Text × Text)) : List (Text × Text) :=
  environment.filter fun entry => !names.contains (comparedName entry.1)

/-- The variables of the policies. -/
def policyVariables : List Text := [variableOf "version_precision", variableOf "version_match"]

/-- The variables of the settings that are no paths. -/
def choiceVariables : List Text := policyVariables ++ [variableOf "log_level"]

variable {other : List (Text × Text)} {names more : List Text} {settings : Settings}

lemma SameBut.mono (h : SameBut names environment other) (hsub : names ⊆ more) :
    SameBut more environment other := by
  intro name hname
  apply h
  intro hmem
  exact hname (hsub hmem)

lemma valueIn?_without (names : List Text) (environment : List (Text × Text)) (name : Text) :
    valueIn? (without names environment) name
      = if name ∈ names then none else valueIn? environment name := by
  unfold valueIn? without
  rw [← List.filter_reverse, List.find?_filter]
  split
  · next hmem =>
    rw [Option.map_eq_none_iff, List.find?_eq_none]
    intro entry _ hentry
    simp only [Bool.not_eq_true', List.contains_eq_mem, decide_eq_false_iff_not, beq_iff_eq,
      decide_eq_true_eq] at hentry
    exact hentry.1 (hentry.2 ▸ hmem)
  · next hmem =>
    congr 2
    funext entry
    by_cases hname : comparedName entry.1 = name
    · simp [hname, hmem]
    · simp [hname]

lemma sameBut_without (names : List Text) (environment : List (Text × Text)) :
    SameBut names environment (without names environment) := by
  intro name hname
  rw [valueIn?_without, if_neg hname]

/-- A variable at the end counts, and in whatever letter case its name is written. -/
lemma valueIn?_append_of_comparedName {name key : Text} (h : comparedName name = key)
    (value : Text) (environment : List (Text × Text)) :
    valueIn? (environment ++ [(name, value)]) key = some value := by
  simp [valueIn?, h]

lemma sameBut_append {name key : Text} (h : comparedName name = key) (value : Text)
    (environment : List (Text × Text)) :
    SameBut [key] environment (environment ++ [(name, value)]) := by
  intro other hother
  have hkey : key ≠ other := fun heq => hother (List.mem_singleton.mpr heq.symm)
  have hne : (comparedName name == other) = false := by
    rw [h]
    simpa using hkey
  simp [valueIn?, hne]

/-- What other variables say of the policies and of the level of the log changes no path. -/
lemma AreOf.of_sameBut (h : AreOf environment settings)
    (hsame : SameBut choiceVariables environment other) {precision : Option Precision}
    {policy : Option MatchPolicy} {logLevel : LogLevel}
    (hprecision : precision.map Precision.name = valueIn? other (variableOf "version_precision"))
    (hpolicy : policy.map MatchPolicy.name = valueIn? other (variableOf "version_match"))
    (hlogLevel : logLevel.name
      = ((valueIn? other (variableOf "log_level")).map Text.upper).getD usual.logLevel.name) :
    AreOf other
      { settings with precision := precision, policy := policy, logLevel := logLevel } where
  dockerfile := by rw [← hsame _ (by decide), h.dockerfile]
  standards := by rw [← hsame _ (by decide), h.standards]
  tools := by rw [← hsame _ (by decide), h.tools]
  precision := hprecision
  policy := hpolicy
  logLevel := hlogLevel

/-- Environments that differ in the level of the log make settings that differ in it. -/
theorem eq_of_sameBut_logLevel {others : Settings} (hload : load environment = .ok settings)
    (hother : load other = .ok others)
    (hsame : SameBut [variableOf "log_level"] environment other) :
    others = { settings with logLevel := others.logLevel } := by
  have hfirst := load_eq_ok_iff.mp hload
  have hsecond := load_eq_ok_iff.mp hother
  have hprecision := hfirst.precision
  have hpolicy := hfirst.policy
  rw [hsame _ (by decide)] at hprecision hpolicy
  have hareOf := hfirst.of_sameBut (hsame.mono (by decide)) hprecision hpolicy hsecond.logLevel
  rw [← load_eq_ok_iff, hother] at hareOf
  exact Except.ok.inj hareOf

/-- Without the variables of the policies, the settings have none. -/
theorem load_without_policyVariables (h : load environment = .ok settings) :
    load (without policyVariables environment)
      = .ok { settings with precision := none, policy := none } := by
  rw [load_eq_ok_iff] at h ⊢
  have hsame := sameBut_without policyVariables environment
  refine h.of_sameBut (hsame.mono (by decide)) ?_ ?_ ?_
  · rw [valueIn?_without, if_pos (by decide), Option.map_none]
  · rw [valueIn?_without, if_pos (by decide), Option.map_none]
  · rw [← hsame _ (by decide), h.logLevel]

section Append

variable {name : Text} (hload : load environment = .ok settings)

include hload

/-- A precision in a variable, in whatever letter case its name is written, is that of the
settings. -/
theorem load_append_precision (hname : comparedName name = variableOf "version_precision")
    (p : Precision) :
    load (environment ++ [(name, p.name)]) = .ok { settings with precision := some p } := by
  rw [load_eq_ok_iff] at hload ⊢
  have hsame := sameBut_append hname p.name environment
  refine hload.of_sameBut (hsame.mono (by decide)) ?_ ?_ ?_
  · rw [valueIn?_append_of_comparedName hname, Option.map_some]
  · rw [← hsame _ (by decide), hload.policy]
  · rw [← hsame _ (by decide), hload.logLevel]

/-- A policy in a variable, in whatever letter case its name is written, is that of the settings. -/
theorem load_append_policy (hname : comparedName name = variableOf "version_match")
    (m : MatchPolicy) :
    load (environment ++ [(name, m.name)]) = .ok { settings with policy := some m } := by
  rw [load_eq_ok_iff] at hload ⊢
  have hsame := sameBut_append hname m.name environment
  refine hload.of_sameBut (hsame.mono (by decide)) ?_ ?_ ?_
  · rw [← hsame _ (by decide), hload.precision]
  · rw [valueIn?_append_of_comparedName hname, Option.map_some]
  · rw [← hsame _ (by decide), hload.logLevel]

end Append

end Settings

end DockCheck
