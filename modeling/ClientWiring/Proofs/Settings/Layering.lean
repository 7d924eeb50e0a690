import ClientWiring.Proofs.Environment.Names
import ClientWiring.Proofs.Settings.Content
import ClientWiring.Proofs.Settings.Profile
import ClientWiring.Proofs.Toml.Names

/-!
# Layers of the configuration

The tree that a configuration is read from is the union of three layers, the file of the defaults,
the file of the profile and the variables, where the later one wins (Layering.union).  Where a later
layer has a value, or on the way there one that is no table, nothing depends on the earlier ones:
not what is read, nor that nothing can be read (Layering.hidden).  What only one layer has is in the
tree unless a later layer cuts the path to it (Layering.kept, Layering.cut).

    s.layers? directory profile = some (below ++ layer :: above) →
    s'.layers? directory profile = some (below ++ layer' :: above) →
      DiffersUnder above layer layer' →
        s'.loadProfile directory profile = s.loadProfile directory profile
                                                                  (loadProfile_eq_of_differsUnder)
-/

namespace ClientWiring.ConfigSource

open ClientWiring.Tree

/-- The layers of the configuration with a profile, the first one the lowest. -/
def layers? (s : ConfigSource) (directory profile : String) : Option (List Tree) := do
  let default ← fileLayer? s.files (defaultFile directory)
  let special ← fileLayer? s.files (profileFile directory profile)
  some [default, special, s.environment.layer]

variable {s : ConfigSource} {directory profile : String}

theorem wellNamed_fileLayer {fs : FileSystem} {path : String} {t : Tree}
    (h : fileLayer? fs path = some t) : t.WellNamed := by
  unfold fileLayer? at h
  split at h
  · cases h
    exact wellNamed_empty
  · cases h
  · exact Toml.wellNamed_parse h

theorem wellNamed_of_mem_layers {layers : List Tree}
    (h : s.layers? directory profile = some layers) : ∀ t ∈ layers, t.WellNamed := by
  obtain ⟨default, hdefault, h⟩ := Option.bind_eq_some_iff.mp h
  obtain ⟨special, hspecial, h⟩ := Option.bind_eq_some_iff.mp h
  cases h
  simp only [List.forall_mem_cons]
  exact ⟨wellNamed_fileLayer hdefault, wellNamed_fileLayer hspecial,
    Environment.wellNamed_layer s.environment, fun _ h => nomatch h⟩

theorem tree?_eq_overlay {layers : List Tree} (h : s.layers? directory profile = some layers) :
    s.tree? directory profile = some (overlay layers) := by
  obtain ⟨default, hdefault, h⟩ := Option.bind_eq_some_iff.mp h
  obtain ⟨special, hspecial, h⟩ := Option.bind_eq_some_iff.mp h
  cases h
  have hlowest : (table []).merge default = default :=
    merge_empty_left (wellNamed_fileLayer hdefault)
  rw [tree?, hdefault, hspecial, overlay, List.foldl_cons, hlowest]
  rfl

theorem loadProfile_of_layers {layers : List Tree}
    (h : s.layers? directory profile = some layers) :
    s.loadProfile directory profile = AppSettings.ofTree? .ignored (overlay layers) := by
  rw [loadProfile, tree?_eq_overlay h]
  rfl

/-- Sources of which one layer differs only under the later ones have the same configuration, or
neither has one. -/
theorem loadProfile_eq_of_differsUnder {s' : ConfigSource} {below above : List Tree}
    {layer layer' : Tree} (hlayers : s.layers? directory profile = some (below ++ layer :: above))
    (hlayers' : s'.layers? directory profile = some (below ++ layer' :: above))
    (hdiffers : DiffersUnder above layer layer') :
    s'.loadProfile directory profile = s.loadProfile directory profile := by
  have hlayer' : layer'.WellNamed :=
    wellNamed_of_mem_layers hlayers' layer' (List.mem_append_right _ (List.mem_cons_self ..))
  have halike := alike_overlay (wellNamed_of_mem_layers hlayers) hlayer' hdiffers
  rw [loadProfile_of_layers hlayers', loadProfile_of_layers hlayers]
  exact (AppSettings.respects_ofTree? .ignored _ _ halike).symm

/-- What the tree of a configuration has from its three layers. -/
structure Layering (s : ConfigSource) (directory profile : String) (default special tree : Tree) :
    Prop where
  /-- Each table of the tree has each name once. -/
  names : tree.WellNamed
  /-- The tree is the union of the three, where the later one wins. -/
  union : ∃ files, Overlaid default special files ∧ Overlaid files s.environment.layer tree
  /-- A source of which one layer differs only under the later ones has the same configuration, or
  has none either. -/
  hidden : ∀ {below layer layer' above},
    below ++ layer :: above = [default, special, s.environment.layer] →
    DiffersUnder above layer layer' → ∀ s' : ConfigSource,
    s'.layers? directory profile = some (below ++ layer' :: above) →
    s'.loadProfile directory profile = s.loadProfile directory profile
  /-- What a single layer has is kept if no later one has a value on the path that is no table. -/
  kept : ∀ {below only above},
    below ++ only :: above = [default, special, s.environment.layer] →
    ∀ path value, only.at? path = some value → (∀ t ∈ below ++ above, t.at? path = none) →
    (∀ upper ∈ above, ¬ upper.Cuts path) → tree.at? path = some value
  /-- Otherwise nothing is left of it. -/
  cut : ∀ {below only above},
    below ++ only :: above = [default, special, s.environment.layer] →
    ∀ path, (∀ t ∈ below ++ above, t.at? path = none) →
    (∃ upper ∈ above, upper.Cuts path) → tree.at? path = none

/-- The root is a table in every layer. -/
theorem path_ne_nil_of_others {below above : List Tree} {only default special third : Tree}
    (hrow : below ++ only :: above = [default, special, third]) {path : List String}
    (hothers : ∀ t ∈ below ++ above, t.at? path = none) : path ≠ [] := by
  rintro rfl
  have hlength : 0 < (below ++ above).length := by
    have := congrArg List.length hrow
    simp only [List.length_append, List.length_cons, List.length_nil] at this ⊢
    omega
  obtain ⟨t, ht⟩ := List.exists_mem_of_length_pos hlength
  exact nomatch hothers t ht

/-- The configuration of two files that can be read: what it is read from, and how this depends on
the layers. -/
theorem loadProfile_of_files {default special : Tree}
    (hdefault : fileLayer? s.files (defaultFile directory) = some default)
    (hspecial : fileLayer? s.files (profileFile directory profile) = some special) :
    ∃ tree, s.tree? directory profile = some tree ∧
      s.loadProfile directory profile = AppSettings.ofTree? .ignored tree ∧
      s.Layering directory profile default special tree := by
  have hlayers : s.layers? directory profile =
      some [default, special, s.environment.layer] := by
    rw [layers?, hdefault, hspecial]
    rfl
  have hnames := wellNamed_of_mem_layers hlayers
  have htree : s.tree? directory profile =
      some ((default.merge special).merge s.environment.layer) := by
    rw [tree?, hdefault, hspecial]
    rfl
  have hoverlay : (default.merge special).merge s.environment.layer =
      overlay [default, special, s.environment.layer] :=
    Option.some.inj (htree.symm.trans (tree?_eq_overlay hlayers))
  refine ⟨_, htree, ?_, ?_, ?_, ?_, ?_, ?_⟩
  · rw [hoverlay, loadProfile_of_layers hlayers]
  · rw [hoverlay]
    exact wellNamed_overlay hnames
  · exact ⟨default.merge special, overlaid_merge default (wellNamed_fileLayer hspecial),
      overlaid_merge _ (Environment.wellNamed_layer s.environment)⟩
  · intro below layer layer' above hrow hdiffers s' hlayers'
    rw [← hrow] at hlayers
    exact loadProfile_eq_of_differsUnder hlayers hlayers' hdiffers
  · intro below only above hrow path value hvalue hothers huncut
    have hpath := path_ne_nil_of_others hrow hothers
    rw [← hrow] at hnames
    rw [hoverlay, ← hrow, at?_overlay_of_single hnames hothers hpath huncut, hvalue]
  · intro below only above hrow path hothers hcut
    rw [← hrow] at hnames
    rw [hoverlay, ← hrow, at?_overlay_of_cut hnames hothers hcut]

/-- The file of the defaults gives a name, the file of the profile a log format, and a variable
another name. -/
def namedSource (name : String) : ConfigSource where
  files := .ofFiles [(defaultFile "config", "app_name = \"" ++ name ++ "\"\n"),
    (profileFile "config" "staging", "[telemetry]\nlog_format = \"json\"\n")]
  environment := ⟨[("APP_APP_NAME", "orders")]⟩

/-- A table with a single name has a single field. -/
theorem eq_table_of_names {t : Tree} {name : String}
    (h : t.fields?.map (List.map Prod.fst) = some [name]) :
    ∃ value, t = table [(name, value)] := by
  obtain ⟨fields, hfields, hnames⟩ := Option.map_eq_some_iff.mp h
  obtain ⟨⟨k, value⟩, rfl, rfl⟩ := List.map_eq_singleton_iff.mp hnames
  cases t with
  | table inner =>
    obtain rfl := Option.some.inj hfields
    exact ⟨value, rfl⟩
  | _ => cases hfields

/-- Names in the file are hidden by the variable. -/
theorem differsUnder_namedSource {special t t' : Tree}
    (ht : fileLayer? (namedSource "svc").files (defaultFile "config") = some t)
    (ht' : fileLayer? (namedSource "billing").files (defaultFile "config") = some t') :
    DiffersUnder [special, (namedSource "svc").environment.layer] t t' := by
  have hnames : ∀ u, fileLayer? (namedSource "svc").files (defaultFile "config") = some u →
      u.fields?.map (List.map Prod.fst) = some ["app_name"] := by
    decide +kernel
  have hnames' : ∀ u, fileLayer? (namedSource "billing").files (defaultFile "config") = some u →
      u.fields?.map (List.map Prod.fst) = some ["app_name"] := by
    decide +kernel
  have hcut : (namedSource "svc").environment.layer.Cuts ["app_name"] := by decide +kernel
  obtain ⟨value, rfl⟩ := eq_table_of_names (hnames t ht)
  obtain ⟨value', rfl⟩ := eq_table_of_names (hnames' t' ht')
  refine differsUnder_of_faces fun path => ?_
  cases path with
  | nil => exact .inr rfl
  | cons name path =>
    by_cases hname : name = "app_name"
    · subst hname
      refine .inl ⟨_, List.mem_cons_of_mem _ (List.mem_cons_self ..), hcut.of_prefix ?_⟩
      exact List.cons_prefix_cons.mpr ⟨rfl, List.nil_prefix⟩
    · have hnone : ∀ v, (table [("app_name", v)]).get? name = none := fun v => by
        simp [get?, getField?, hname]
      right
      rw [at?_cons, at?_cons, hnone, hnone]

theorem layers?_namedSource {special t : Tree}
    (ht : fileLayer? (namedSource "billing").files (defaultFile "config") = some t)
    (hspecial : fileLayer? (namedSource "svc").files (profileFile "config" "staging") =
      some special) :
    (namedSource "billing").layers? "config" "staging" =
      some ([] ++ t :: [special, (namedSource "svc").environment.layer]) := by
  have hsame : (namedSource "billing").files.read (profileFile "config" "staging") =
      (namedSource "svc").files.read (profileFile "config" "staging") := by
    decide +kernel
  have hprofile : fileLayer? (namedSource "billing").files (profileFile "config" "staging") =
      some special := by
    rw [fileLayer?, hsame]
    exact hspecial
  rw [layers?, ht, hprofile]
  rfl

/-- The name comes from the variable whatever the file says, and the log format from the only layer
that has one. -/
theorem loadProfile_namedSource :
    (namedSource "billing").loadProfile "config" "staging" =
        (namedSource "svc").loadProfile "config" "staging" ∧
      ∃ special tree format,
        fileLayer? (namedSource "svc").files (profileFile "config" "staging") = some special ∧
        special.at? ["telemetry", "log_format"] = some format ∧
        (namedSource "svc").tree? "config" "staging" = some tree ∧
        tree.at? ["telemetry", "log_format"] = some format := by
  have hdefaults : (fileLayer? (namedSource "svc").files (defaultFile "config")).isSome ∧
      (fileLayer? (namedSource "billing").files (defaultFile "config")).isSome := by
    decide +kernel
  have hformats : ((fileLayer? (namedSource "svc").files (profileFile "config" "staging")).bind
      fun t => t.at? ["telemetry", "log_format"]).isSome := by
    decide +kernel
  have hothers : ∀ t, fileLayer? (namedSource "svc").files (defaultFile "config") = some t →
      t.at? ["telemetry", "log_format"] = none := by
    decide +kernel
  have hvariables :
      (namedSource "svc").environment.layer.at? ["telemetry", "log_format"] = none ∧
        ¬ (namedSource "svc").environment.layer.Cuts ["telemetry", "log_format"] := by
    decide +kernel
  obtain ⟨default, hdefault⟩ := Option.isSome_iff_exists.mp hdefaults.1
  obtain ⟨default', hdefault'⟩ := Option.isSome_iff_exists.mp hdefaults.2
  obtain ⟨format, hformat⟩ := Option.isSome_iff_exists.mp hformats
  obtain ⟨special, hspecial, hformat⟩ := Option.bind_eq_some_iff.mp hformat
  obtain ⟨tree, htree, -, hlayering⟩ := loadProfile_of_files hdefault hspecial
  refine ⟨?_, special, tree, format, hspecial, hformat, htree, ?_⟩
  · exact hlayering.hidden rfl (differsUnder_namedSource hdefault hdefault') _
      (layers?_namedSource hdefault' hspecial)
  · have hrow : [default] ++ special :: [(namedSource "svc").environment.layer] =
        [default, special, (namedSource "svc").environment.layer] := rfl
    have hnone : ∀ t ∈ [default] ++ [(namedSource "svc").environment.layer],
        t.at? ["telemetry", "log_format"] = none :=
      List.forall_mem_cons.mpr ⟨hothers default hdefault,
        List.forall_mem_singleton.mpr hvariables.1⟩
    exact hlayering.kept hrow _ format hformat hnone
      (List.forall_mem_singleton.mpr hvariables.2)

/-- The file of the defaults gives a log level, and the file of the profile an empty row in the
place of the section. -/
def rowSource : ConfigSource where
  files := .ofFiles
    [(defaultFile "config", "app_name = \"svc\"\n[telemetry]\nlog_level = \"debug\"\n"),
     (profileFile "config" "staging", "telemetry = []\n")]
  environment := ⟨[]⟩

/-- Only the file of the defaults has a log level, and yet another one is read. -/
theorem rowSource_drops_logLevel :
    ((fileLayer? rowSource.files (defaultFile "config")).bind fun t =>
        (t.at? ["telemetry", "log_level"]).bind text?) = some "debug" ∧
      (∀ t, fileLayer? rowSource.files (profileFile "config" "staging") = some t →
        t.at? ["telemetry", "log_level"] = none) ∧
      rowSource.environment.layer.at? ["telemetry", "log_level"] = none ∧
      (∀ t, rowSource.tree? "config" "staging" = some t →
        t.at? ["telemetry", "log_level"] = none) ∧
      (rowSource.loadProfile "config" "staging").map (fun s => s.telemetry.logLevel) =
        some "info" := by
  decide +kernel

end ClientWiring.ConfigSource
