import ClientWiring.Proofs.Tree.Layers
import ClientWiring.Settings.Load
import ClientWiring.Startup.LogFormat

/-!
# Profile and environment name

The variable `APP_ENV` names the profile, whose file is one of the layers of the configuration.  As
a part of the layer of variables it stands under the path `env`, like any other variable under its
name without `APP_`.  The environment name of the configuration is the field `app_env`, which the
variable therefore does not set:

    Environment.path? "APP_ENV" = some ["env"]                           (path?_profileVariable)

So a configuration in which no layer has this field has the default name, whatever the profile is
(appEnv_of_load).  It is the profile just when the profile is the default too; the configuration never
counts as production, and its log is JSON only if it asks for that.
-/

namespace ClientWiring

open ClientWiring.Tree

/-- The field with the environment name. -/
def AppSettings.envField : String := "app_env"

/-! ## Layers are tables -/

theorem Toml.isTable_parse {text : String} {t : Tree} (h : Toml.parse text = some t) :
    t.IsTable := by
  unfold Toml.parse at h
  obtain ⟨d, -, hd⟩ := Option.bind_eq_some_iff.mp h
  cases hd
  exact isTable_table _

theorem ConfigSource.isTable_fileLayer {fs : FileSystem} {path : String} {t : Tree}
    (h : fileLayer? fs path = some t) : t.IsTable := by
  unfold fileLayer? at h
  split at h
  · cases h
    exact isTable_table _
  · cases h
  · exact Toml.isTable_parse h

namespace Environment

theorem path?_ne_nil {name : String} {path : List String} (h : path? name = some path) :
    path ≠ [] := by
  simp only [path?] at h
  split at h
  · split at h
    · cases h
    · obtain rfl := Option.some.inj h
      simp [List.splitOn_ne_nil]
  · cases h

theorem mem_trees {e : Environment} {t : Tree} (h : t ∈ e.bindings.filterMap treeOf?) :
    ∃ v ∈ e.bindings, ∃ path, path? v.1 = some path ∧ t = nest path (parseValue v.2) := by
  obtain ⟨v, hv, ht⟩ := List.mem_filterMap.mp h
  obtain ⟨path, hpath, rfl⟩ := Option.map_eq_some_iff.mp ht
  exact ⟨v, hv, path, hpath, rfl⟩

theorem isTable_of_mem_trees {e : Environment} {t : Tree}
    (h : t ∈ e.bindings.filterMap treeOf?) : t.IsTable := by
  obtain ⟨v, -, path, hpath, rfl⟩ := mem_trees h
  exact isTable_nest (path?_ne_nil hpath) _

theorem isTable_layer (e : Environment) : e.layer.IsTable :=
  isTable_foldl_merge (fun _ h => isTable_of_mem_trees h) (isTable_table [])

/-- A variable sets a field of the layer if its path starts with the name of the field. -/
def SetsField (e : Environment) (field : String) : Prop :=
  ∃ v ∈ e.bindings, (path? v.1).bind List.head? = some field

theorem get?_layer_of_not_setsField {e : Environment} {field : String}
    (hunset : ¬ e.SetsField field) : e.layer.get? field = none := by
  have hnone : ∀ t ∈ e.bindings.filterMap treeOf?, t.get? field = none := by
    intro t ht
    obtain ⟨v, hv, path, hpath, rfl⟩ := mem_trees ht
    refine get?_nest_of_head? (path?_ne_nil hpath) (fun hhead => hunset ⟨v, hv, ?_⟩) _
    rw [hpath]
    exact hhead
  unfold layer
  rw [get?_foldl_merge_of_none (fun _ h => isTable_of_mem_trees h) hnone (isTable_table [])]
  rfl

end Environment

/-! ## The environment name -/

/-- A configuration without an environment name has the default one. -/
theorem AppSettings.appEnv_of_unset {t : Tree} {settings : AppSettings} (htable : t.IsTable)
    (hread : AppSettings.ofTree? .ignored t = some settings)
    (hunset : t.get? envField = none) : settings.appEnv = defaultEnv := by
  obtain ⟨fields, rfl⟩ := htable
  have henv : withDefault fields envField text? defaultEnv = some defaultEnv := by
    have hfield : getField? fields envField = none := hunset
    rw [withDefault, hfield]
  unfold AppSettings.ofTree? at hread
  obtain ⟨found, hfound, hread⟩ := Option.bind_eq_some_iff.mp hread
  obtain rfl : fields = found := Option.some.inj hfound
  obtain ⟨appName, -, hread⟩ := Option.bind_eq_some_iff.mp hread
  obtain ⟨appEnv, happEnv, hread⟩ := Option.bind_eq_some_iff.mp hread
  obtain rfl : defaultEnv = appEnv := Option.some.inj (henv.symm.trans happEnv)
  obtain ⟨telemetry, -, hread⟩ := Option.bind_eq_some_iff.mp hread
  obtain ⟨tls, -, hread⟩ := Option.bind_eq_some_iff.mp hread
  obtain ⟨kafka, -, hread⟩ := Option.bind_eq_some_iff.mp hread
  obtain ⟨mongo, -, hread⟩ := Option.bind_eq_some_iff.mp hread
  cases hread
  rfl

namespace ConfigSource

/-- No layer of the configuration with a profile has the field: neither of the two files, nor the
variables. -/
structure LeavesUnset (s : ConfigSource) (directory profile field : String) : Prop where
  inDefault : ∀ t, fileLayer? s.files (defaultFile directory) = some t → t.get? field = none
  inProfile : ∀ t, fileLayer? s.files (profileFile directory profile) = some t →
    t.get? field = none
  inVariables : ¬ s.environment.SetsField field

theorem get?_tree_of_leavesUnset {s : ConfigSource} {directory profile field : String} {t : Tree}
    (htree : s.tree? directory profile = some t)
    (hunset : s.LeavesUnset directory profile field) : t.IsTable ∧ t.get? field = none := by
  unfold tree? at htree
  obtain ⟨lower, hlower, htree⟩ := Option.bind_eq_some_iff.mp htree
  obtain ⟨special, hspecial, htree⟩ := Option.bind_eq_some_iff.mp htree
  cases htree
  have hlowerTable := isTable_fileLayer hlower
  have hspecialTable := isTable_fileLayer hspecial
  have hfiles := hlowerTable.merge hspecialTable
  have hvariables := Environment.isTable_layer s.environment
  refine ⟨hfiles.merge hvariables, ?_⟩
  rw [get?_merge_of_none hfiles hvariables
      (Environment.get?_layer_of_not_setsField hunset.inVariables),
    get?_merge_of_none hlowerTable hspecialTable (hunset.inProfile special hspecial)]
  exact hunset.inDefault lower hlower

theorem appEnv_of_loadProfile {s : ConfigSource} {directory profile : String}
    {settings : AppSettings} (hload : s.loadProfile directory profile = some settings)
    (hunset : s.LeavesUnset directory profile AppSettings.envField) :
    settings.appEnv = AppSettings.defaultEnv := by
  unfold loadProfile at hload
  obtain ⟨t, htree, hread⟩ := Option.bind_eq_some_iff.mp hload
  obtain ⟨htable, hnone⟩ := get?_tree_of_leavesUnset htree hunset
  exact AppSettings.appEnv_of_unset htable hread hnone

/-- A loaded configuration in which no layer has the environment name: it is the default one, not the
profile, and so are all answers that depend on it. -/
theorem appEnv_of_load {s : ConfigSource} {directory : String} {settings : AppSettings}
    (hload : s.load directory = some settings)
    (hunset : s.withVariablesFile.LeavesUnset directory s.withVariablesFile.profile
      AppSettings.envField) :
    settings.appEnv = AppSettings.defaultEnv ∧
      (settings.appEnv = s.withVariablesFile.profile ↔
        s.withVariablesFile.profile = AppSettings.defaultEnv) ∧
      settings.isProduction = false ∧
      Startup.LogFormat.ofSettings settings =
        Startup.LogFormat.parse settings.telemetry.logFormat := by
  have henv : settings.appEnv = AppSettings.defaultEnv := appEnv_of_loadProfile hload hunset
  have hproduction : settings.isProduction = false := by
    rw [AppSettings.isProduction, henv]
    decide
  refine ⟨henv, ?_, hproduction, ?_⟩
  · rw [henv]
    exact eq_comm
  · rw [Startup.LogFormat.ofSettings, hproduction]
    rfl

/-- The variable with the profile does not have the path of the environment name. -/
theorem path?_profileVariable : Environment.path? profileVariable = some ["env"] := by
  decide +kernel

/-- Two files and the variable `APP_ENV`, which chooses the file for production. -/
def productionSource : ConfigSource where
  files := .ofFiles [(defaultFile "config", "app_name = \"svc\"\n"),
    (profileFile "config" "production", "[telemetry]\nlog_level = \"warn\"\n")]
  environment := ⟨[(profileVariable, "production")]⟩

theorem profile_productionSource : productionSource.withVariablesFile.profile = "production" := by
  decide

/-- The only variable has the path `env`, and the files have other fields. -/
theorem leavesUnset_productionSource :
    productionSource.withVariablesFile.LeavesUnset "config" "production"
      AppSettings.envField where
  inDefault := by decide +kernel
  inProfile := by decide +kernel
  inVariables := by
    rintro ⟨v, hv, hhead⟩
    obtain rfl := List.mem_singleton.mp hv
    rw [path?_profileVariable] at hhead
    revert hhead
    decide

/-- The environment name is the default one with the file for production in force. -/
theorem appEnv_of_load_production :
    ∃ settings, productionSource.load "config" = some settings ∧
      productionSource.withVariablesFile.LeavesUnset "config"
        productionSource.withVariablesFile.profile AppSettings.envField ∧
      settings.appEnv = AppSettings.defaultEnv ∧ settings.isProduction = false := by
  have hloads : (productionSource.load "config").isSome := by decide +kernel
  obtain ⟨settings, hload⟩ := Option.isSome_iff_exists.mp hloads
  have hunset : productionSource.withVariablesFile.LeavesUnset "config"
      productionSource.withVariablesFile.profile AppSettings.envField := by
    rw [profile_productionSource]
    exact leavesUnset_productionSource
  obtain ⟨henv, -, hproduction, -⟩ := appEnv_of_load hload hunset
  exact ⟨settings, hload, hunset, henv, hproduction⟩

/-- A run for production that takes itself for one for development, and whose log is text. -/
theorem production_taken_for_development :
    productionSource.withVariablesFile.profile = "production" ∧
      productionSource.withVariablesFile.LeavesUnset "config" "production"
        AppSettings.envField ∧
      ∃ settings, productionSource.load "config" = some settings ∧
        settings.telemetry.logLevel = "warn" ∧ settings.appEnv = "development" ∧
        settings.isProduction = false ∧ Startup.LogFormat.ofSettings settings = .text := by
  have hanswers : (productionSource.load "config").map (fun s =>
        (s.telemetry.logLevel, s.appEnv, s.isProduction, Startup.LogFormat.ofSettings s)) =
      some ("warn", "development", false, .text) := by
    decide +kernel
  obtain ⟨settings, hload, hsettings⟩ := Option.map_eq_some_iff.mp hanswers
  simp only [Prod.mk.injEq] at hsettings
  obtain ⟨hlevel, henv, hproduction, hformat⟩ := hsettings
  exact ⟨profile_productionSource, leavesUnset_productionSource, settings, hload, hlevel, henv,
    hproduction, hformat⟩

end ConfigSource

end ClientWiring
