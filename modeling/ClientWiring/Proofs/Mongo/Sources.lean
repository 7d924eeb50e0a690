import ClientWiring.Mongo.ClientFactory

/-!
# Two sources of the same settings

Settings of the section `mongo` reach the standard customizer in one of two ways.  Given directly,
the connection string comes with the TLS settings, and the bundle is looked up when the customizer
runs.  Through connection details, it is looked up when the details are made.  The rest is the same:

    run (direct a tls registry)  = bundle of (direct a tls registry)  >>= useMaterial a
    run (details of s)           = bundleOfSettings registry s.tls    >>= useMaterial a

The two look-ups differ only in what TLS without a named bundle means: an error on the one side, the
authorities of the operating system on the other.  So both ways give the same settings or fail with
the same error, except exactly there                                    (same_settings_iff_named).
-/

namespace ClientWiring.Mongo

theorem Customizer.runInOrder_singleton (c : Customizer) (s : ClientSettings) :
    runInOrder s [c] = (c.apply s).2.map fun _ => (c.apply s).1 := by
  unfold runInOrder
  obtain ⟨next, answer⟩ := c.apply s
  cases answer with
  | error e => rfl
  | ok u => rfl

namespace Standard

/-- The settings after the standard customizer ran on its own. -/
def run (fs : FileSystem) (c : Standard) (s : ClientSettings) : Except AppError ClientSettings :=
  Customizer.runInOrder s [c.toCustomizer fs]

/-- Connection string and representation are set, and TLS is switched on if there is a bundle. -/
def useMaterial (fs : FileSystem) (uuid : UuidRepresentation) (a : Address) (s : ClientSettings) :
    Option Tls.Bundle → Except AppError ClientSettings
  | none => .ok { s with uuid := some uuid, address := some a }
  | some bundle =>
    (useBundle fs bundle s.tls).map fun tls => { s with uuid := some uuid, address := some a, tls }

/-- The customizer looks up its bundle, and the bundle decides about the rest. -/
theorem run_eq (fs : FileSystem) (c : Standard) (s : ClientSettings) :
    c.run fs s = c.source.bundle.bind (useMaterial fs c.uuid c.source.address s) := by
  rw [run, Customizer.runInOrder_singleton]
  show (c.apply fs s).2.map (fun _ => (c.apply fs s).1) = _
  unfold apply
  cases c.source.bundle with
  | error e => rfl
  | ok found =>
    cases found with
    | none => rfl
    | some bundle =>
      simp only [ClientSettings.changeTls, Except.bind, useMaterial]
      cases useBundle fs bundle s.tls with
      | error e => rfl
      | ok tls => rfl

end Standard

/-! ## The two ways -/

section

variable (fs : FileSystem) (registry : Option Tls.Registry) (uuid : UuidRepresentation) (rank : Int)

/-- The settings when connection string and TLS settings are given directly. -/
def settingsDirectly (a : Address) (tls : MongoTlsSettings) (s : ClientSettings) :
    Except AppError ClientSettings :=
  Standard.run fs ⟨.direct a tls registry, uuid, rank⟩ s

/-- The settings through connection details, which may fail to be made. -/
def settingsThroughDetails (m : MongoSettings) (s : ClientSettings) :
    Except AppError ClientSettings :=
  (Details.ofSettings registry m).bind fun d => Standard.run fs ⟨.details d, uuid, rank⟩ s

theorem settingsDirectly_eq (a : Address) (tls : MongoTlsSettings) (s : ClientSettings) :
    settingsDirectly fs registry uuid rank a tls s =
      (Source.direct a tls registry).bundle.bind (Standard.useMaterial fs uuid a s) :=
  Standard.run_eq fs _ s

/-- Once the connection string is read, details fail just when their bundle is not found. -/
theorem settingsThroughDetails_eq {m : MongoSettings} {a : Address}
    (hread : Address.parse (Address.build m) = .ok a) (s : ClientSettings) :
    settingsThroughDetails fs registry uuid rank m s =
      (Details.bundleOfSettings registry m.tls).bind (Standard.useMaterial fs uuid a s) := by
  unfold settingsThroughDetails Details.ofSettings
  rw [hread]
  cases Details.bundleOfSettings registry m.tls with
  | error e => rfl
  | ok found => exact Standard.run_eq fs ⟨.details ⟨a, found⟩, uuid, rank⟩ s

end

/-! ## The two look-ups -/

/-- TLS is wanted, and no bundle is named for it. -/
def Nameless (tls : MongoTlsSettings) : Prop :=
  tls.enabled = true ∧ (tls.bundle = none ∨ tls.bundle = some "")

theorem bundleName_eq_none_iff (tls : MongoTlsSettings) :
    bundleName tls = none ↔ tls.bundle = none ∨ tls.bundle = some "" := by
  unfold bundleName
  cases tls.bundle with
  | none => simp
  | some name => simp [Option.filter_eq_none_iff]

theorem directBundle_of_unnamed (registry : Option Tls.Registry) {tls : MongoTlsSettings}
    (hname : bundleName tls = none) :
    Source.directBundle tls registry = .error .noMongoBundle := by
  rw [Source.directBundle, hname]

theorem directBundle_of_named (registry : Option Tls.Registry) {tls : MongoTlsSettings}
    {name : String} (hname : bundleName tls = some name) :
    Source.directBundle tls registry = Tls.resolve registry name := by
  rw [Source.directBundle, hname]

/-- Apart from TLS without a name, the two look-ups are the same. -/
theorem bundle_eq_of_not_nameless (a : Address) (registry : Option Tls.Registry)
    {tls : MongoTlsSettings} (hnamed : ¬ Nameless tls) :
    (Source.direct a tls registry).bundle = Details.bundleOfSettings registry tls := by
  simp only [Source.bundle, Details.bundleOfSettings]
  by_cases henabled : tls.enabled = true
  · rw [if_pos henabled, if_pos henabled]
    cases hname : bundleName tls with
    | none => exact absurd ⟨henabled, (bundleName_eq_none_iff tls).mp hname⟩ hnamed
    | some name =>
      cases hfound : Tls.resolve registry name with
      | error e => simp only [directBundle_of_named registry hname, hfound]
      | ok bundle => simp only [directBundle_of_named registry hname, hfound]
  · rw [if_neg henabled, if_neg henabled]

theorem bundle_of_nameless (a : Address) (registry : Option Tls.Registry) {tls : MongoTlsSettings}
    (hnameless : Nameless tls) :
    (Source.direct a tls registry).bundle = .error .noMongoBundle ∧
      Details.bundleOfSettings registry tls = .ok (some .systemDefault) := by
  have hname : bundleName tls = none := (bundleName_eq_none_iff tls).mpr hnameless.2
  simp only [Source.bundle, Details.bundleOfSettings]
  rw [if_pos hnameless.1, if_pos hnameless.1, directBundle_of_unnamed registry hname, hname]
  exact ⟨rfl, rfl⟩

/-- The bundle without material can always be used. -/
theorem useBundle_systemDefault (fs : FileSystem) (tls : TlsState) :
    useBundle fs .systemDefault tls = .ok (tls.switchedOn ⟨Tls.defaultProtocol, .none⟩) := rfl

/-! ## Main result -/

/-- Settings whose connection string can be read lead to the same result both ways, unless TLS is
wanted without a named bundle; then the direct way fails, and details bring TLS with no files, which
trusts the authorities of the operating system. -/
theorem same_settings_iff_named (fs : FileSystem) (registry : Option Tls.Registry)
    (uuid : UuidRepresentation) (rank : Int) {m : MongoSettings} {a : Address}
    (hread : Address.parse (Address.build m) = .ok a) (s : ClientSettings) :
    (settingsDirectly fs registry uuid rank a m.tls s =
        settingsThroughDetails fs registry uuid rank m s ↔ ¬ Nameless m.tls) ∧
      (Nameless m.tls →
        settingsDirectly fs registry uuid rank a m.tls s = .error .noMongoBundle ∧
        AppError.noMongoBundle.kind = .illegalState ∧
        ∃ context : Tls.Context,
          settingsThroughDetails fs registry uuid rank m s =
            .ok { s with uuid := some uuid, address := some a, tls := ⟨some true, some context⟩ } ∧
          Tls.Bundle.systemDefault.createContext fs = .ok context ∧
          context.stores.authority = none ∧ context.stores.certificate = none ∧
          context.stores.key = none ∧ context.usesSystemRoots = true) := by
  have hdirect := settingsDirectly_eq fs registry uuid rank a m.tls s
  have hdetails := settingsThroughDetails_eq fs registry uuid rank hread s
  by_cases hnameless : Nameless m.tls
  · obtain ⟨hfails, hsystem⟩ := bundle_of_nameless a registry hnameless
    rw [hfails] at hdirect
    rw [hsystem] at hdetails
    have hrefused : settingsDirectly fs registry uuid rank a m.tls s = .error .noMongoBundle :=
      hdirect
    have htrusts : settingsThroughDetails fs registry uuid rank m s =
        .ok { s with
          uuid := some uuid
          address := some a
          tls := ⟨some true, some ⟨Tls.defaultProtocol, .none⟩⟩ } := by
      rw [hdetails]
      show (useBundle fs .systemDefault s.tls).map _ = _
      rw [useBundle_systemDefault]
      rfl
    refine ⟨⟨fun hsame => ?_, fun hnot => absurd hnameless hnot⟩, fun _ => ?_⟩
    · rw [hrefused, htrusts] at hsame
      cases hsame
    · exact ⟨hrefused, rfl, _, htrusts, rfl, rfl, rfl, rfl, rfl⟩
  · have hsame : settingsDirectly fs registry uuid rank a m.tls s =
        settingsThroughDetails fs registry uuid rank m s := by
      rw [hdirect, hdetails, bundle_eq_of_not_nameless a registry hnameless]
    exact ⟨⟨fun _ => hnameless, fun _ => hsame⟩, fun h => absurd h hnameless⟩

/-- A client of this machine that wants TLS. -/
def tlsClient (bundle : Option String) : MongoSettings :=
  { MongoSettings.default with tls := ⟨true, bundle⟩ }

/-- Its connection string. -/
def tlsAddress : Address :=
  { text := ⟨"mongodb://localhost:27017/test"⟩
    isService := false
    username := none
    hosts := ["localhost:27017"]
    database := some "test" }

/-- A registry with one bundle, which names a file for its authorities. -/
def fileRegistry : Tls.Registry :=
  ⟨.ofList [("pem", { Tls.Bundle.systemDefault with
    name := "pem", stores := { Tls.Stores.none with authority := some "/etc/ssl/ca.pem" } })]⟩

/-- The file is there. -/
def certifiedFiles : FileSystem := .ofFiles [("/etc/ssl/ca.pem", "")]

/-- With a bundle that is named, both ways give the same settings where its file is there and fail alike
where it may not be read; with an empty name only the direct one fails. -/
theorem same_settings_iff_named_tlsClient :
    (∀ bundle, Address.parse (Address.build (tlsClient bundle)) = .ok tlsAddress) ∧
      (∃ next,
        settingsDirectly certifiedFiles (some fileRegistry) .standard 0 tlsAddress
          ⟨true, some "pem"⟩ .empty = .ok next ∧
        settingsThroughDetails certifiedFiles (some fileRegistry) .standard 0
          (tlsClient (some "pem")) .empty = .ok next ∧
        next.tls.context.bind (·.stores.authority) = some "/etc/ssl/ca.pem") ∧
      settingsDirectly .locked (some fileRegistry) .standard 0 tlsAddress ⟨true, some "pem"⟩ .empty =
        .error (.io (.cannotOpen (.refused .permissionDenied))) ∧
      settingsThroughDetails .locked (some fileRegistry) .standard 0 (tlsClient (some "pem")) .empty =
        .error (.io (.cannotOpen (.refused .permissionDenied))) ∧
      settingsDirectly .locked (some fileRegistry) .standard 0 tlsAddress ⟨true, some ""⟩ .empty =
        .error .noMongoBundle ∧
      ∃ context,
        settingsThroughDetails .locked (some fileRegistry) .standard 0 (tlsClient (some "")) .empty =
          .ok { ClientSettings.empty with
            uuid := some .standard
            address := some tlsAddress
            tls := ⟨some true, some context⟩ } ∧
        context.usesSystemRoots = true := by
  have hbuild : Address.build MongoSettings.default = "mongodb://localhost:27017/test" := by decide
  have hread : ∀ bundle, Address.parse (Address.build (tlsClient bundle)) = .ok tlsAddress := by
    intro bundle
    show Address.parse (Address.build MongoSettings.default) = _
    rw [hbuild]
    rfl
  have hpem : ¬ Nameless ⟨true, some "pem"⟩ := by
    rintro ⟨-, h | h⟩
    · cases h
    · exact absurd h (by decide)
  obtain ⟨next, hthere, hauthority⟩ : ∃ next, settingsDirectly certifiedFiles (some fileRegistry)
      .standard 0 tlsAddress ⟨true, some "pem"⟩ .empty = .ok next ∧
        next.tls.context.bind (·.stores.authority) = some "/etc/ssl/ca.pem" :=
    ⟨_, rfl, rfl⟩
  have hforbidden : settingsDirectly .locked (some fileRegistry) .standard 0 tlsAddress
      ⟨true, some "pem"⟩ .empty = .error (.io (.cannotOpen (.refused .permissionDenied))) := rfl
  have hnamed := fun fs => (same_settings_iff_named fs (some fileRegistry) .standard 0
    (hread (some "pem")) .empty).1.mpr hpem
  have hempty := same_settings_iff_named .locked (some fileRegistry) .standard 0
    (hread (some "")) .empty
  obtain ⟨hfails, -, context, htrusts, -, -, -, -, hroots⟩ := hempty.2 ⟨rfl, .inr rfl⟩
  exact ⟨hread, ⟨next, hthere, (hnamed certifiedFiles).symm.trans hthere, hauthority⟩, hforbidden,
    (hnamed .locked).symm.trans hforbidden, hfails, context, htrusts, hroots⟩

end ClientWiring.Mongo
