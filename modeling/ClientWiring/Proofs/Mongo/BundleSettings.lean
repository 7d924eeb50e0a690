import ClientWiring.Proofs.Mongo.Customization
import ClientWiring.Proofs.Mongo.Overlay

/-!
# What becomes of the settings of a bundle

The standard customizer takes a bundle over into the settings, and the settings are turned into options
of the driver.  The driver knows less than a bundle can say, so a setting that says more than a bundle
without material goes one of three ways:

    the options have it              authority, certificate, key
    a warning tells of it            password of the key, host names that are not checked
    there are no options             ciphers, enabled protocols

The last way is open to every setting, as a file may be missing, or certificate and key may be in two
files.  The protocol has no other: where there are options, they and the log are the ones for every
other protocol                                                           (accountedFor_iff).
-/

namespace ClientWiring.Mongo

open Tls (Setting)

/-- The options that a driver gets after the standard customizer ran on settings. -/
def Driver.optionsAfter (driver : Driver) (fs : FileSystem) (c : Standard) (s : ClientSettings) :
    Logged DriverOptions :=
  match c.run fs s with
  | .error e => .silent (.error e)
  | .ok next => driver.options next

/-- The text of the warning about a setting that the driver cannot use. -/
def warningAbout : Setting → Option String
  | .keyPassword =>
    some "Encrypted private keys are not supported by the MongoDB driver, key password ignored"
  | .verifyHostname =>
    some "Hostname verification cannot be disabled for MongoDB, setting ignored"
  | .authority | .certificate | .key | .ciphers | .enabledProtocols | .protocol => none

/-- The options have a file of the bundle: its authorities, its certificate, or its key.  There is one
file for certificate and key, so a key is found in any path that leads to its file. -/
inductive Reflects (b : Tls.Bundle) (o : DriverOptions) : Setting → Prop
  | authority {path file further} (hgiven : b.stores.authority = some path)
      (htls : o.tls = some (.enabled (some path) file further)) : Reflects b o .authority
  | certificate {path authority further} (hgiven : b.stores.certificate = some path)
      (htls : o.tls = some (.enabled authority (some path) further)) : Reflects b o .certificate
  | key {path file authority further} (hgiven : b.stores.key = some path)
      (htls : o.tls = some (.enabled authority (some file) further))
      (hsame : FileSystem.samePath file path = true) : Reflects b o .key

/-- A setting of a bundle is not lost: the options have it, or a warning tells of it, or there are no
options. -/
inductive AccountedFor (b : Tls.Bundle) (x : Logged DriverOptions) (setting : Setting) : Prop
  | reflected {o} (hok : x.answer = .ok o) (hreflects : Reflects b o setting)
  | reported {text} (htext : warningAbout setting = some text)
      (hlogged : LogEntry.warning text [] ∈ x.log)
  | failed {e} (hfails : x.answer = .error e)

/-! ## Options for a bundle -/

theorem Source.bundle_of_brings {source : Source} {b : Tls.Bundle} (h : source.Brings b) :
    source.bundle = .ok (some b) := by
  cases h with
  | details hbundle =>
    simp only [bundle]
    rw [hbundle]
  | direct hnames hregistered =>
    obtain ⟨henabled, hname⟩ := hnames
    simp only [bundle]
    rw [if_pos henabled, directBundle_of_named _ ((bundleName_eq_some_iff _ _).mpr hname),
      (Tls.resolve_eq_ok_iff _ _ _).mpr hregistered]

namespace Driver

variable (driver : Driver) (fs : FileSystem) (s : ClientSettings)

/-- The options for the files and restrictions of a bundle, whatever its protocol. -/
def optionsFor (a : Address) (stores : Tls.Stores) (restrictions : Tls.Options) :
    Logged DriverOptions :=
  if restrictions.isSpecified then .silent (.error .mongoTlsOptions)
  else
    match Tls.openAll fs stores.paths with
    | .error e => .silent (.error e)
    | .ok () =>
      driver.options
        { s with address := some a, tls := ⟨some true, some ⟨Tls.defaultProtocol, stores⟩⟩ }

theorem optionsAfter_eq {c : Standard} {b : Tls.Bundle} (hbrings : c.source.Brings b) :
    driver.optionsAfter fs c s = driver.optionsFor fs s c.source.address b.stores b.options := by
  have hrun : c.run fs s = Standard.useMaterial fs c.uuid c.source.address s (some b) := by
    rw [Standard.run_eq, Source.bundle_of_brings hbrings]
    rfl
  rw [optionsAfter, hrun, optionsFor]
  simp only [Standard.useMaterial, useBundle, Tls.Bundle.createContext]
  cases b.options.isSpecified with
  | true => rfl
  | false =>
    cases Tls.openAll fs b.stores.paths with
    | error e => rfl
    | ok u => rfl

open DriverOptions

variable {driver fs s}

/-- Beside options there are the warnings about the material, and nothing else. -/
theorem log_options_of_context {context : Tls.Context} {o : DriverOptions}
    (henabled : s.tls.enabled = some true) (hcontext : s.tls.context = some context)
    (hok : (driver.options s).answer = .ok o) :
    (driver.options s).log = unusable context.stores := by
  unfold options at hok ⊢
  cases hbase : base driver s with
  | error e =>
    simp only [hbase] at hok
    cases hok
  | ok u =>
    simp only [hbase, henabled, hcontext, tlsOfContext] at hok ⊢
    cases hfile : certificateAndKey context.stores with
    | error e =>
      simp only [hfile] at hok
      cases hok
    | ok file => rfl

/-- Options for a bundle have its authorities, one file for certificate and key, and beside them the
warnings about its material; the bundle restricts nothing, and certificate and key are in one file. -/
theorem of_optionsFor_eq_ok {a : Address} {stores : Tls.Stores} {restrictions : Tls.Options}
    {o : DriverOptions} (hok : (driver.optionsFor fs s a stores restrictions).answer = .ok o) :
    restrictions.isSpecified = false ∧
      (∀ certificate key, stores.certificate = some certificate → stores.key = some key →
        FileSystem.samePath certificate key = true) ∧
      o.tls = some (.enabled stores.authority (stores.certificate.or stores.key) []) ∧
      (driver.optionsFor fs s a stores restrictions).log = unusable stores := by
  cases hfree : restrictions.isSpecified with
  | true =>
    rw [optionsFor, hfree, if_pos rfl] at hok
    cases hok
  | false =>
    refine ⟨rfl, ?_⟩
    unfold optionsFor at hok ⊢
    rw [hfree, if_neg Bool.false_ne_true] at hok ⊢
    cases hopen : Tls.openAll fs stores.paths with
    | error e =>
      simp only [hopen] at hok
      cases hok
    | ok u =>
      simp only [hopen] at hok ⊢
      obtain ⟨u, -, hwhole, hover⟩ := (driver.options_eq_ok_iff _ o).mp hok
      have hon : TlsOver ⟨some true, some ⟨Tls.defaultProtocol, stores⟩⟩ u.tls
          (some (.enabled stores.authority (stores.certificate.or stores.key) [])) :=
        @TlsOver.on _ _ ⟨Tls.defaultProtocol, stores⟩ rfl rfl
      refine ⟨fun certificate key hcertificate hkey => ?_, hover.tls.unique hon, ?_⟩
      · cases hsame : FileSystem.samePath certificate key with
        | true => rfl
        | false =>
          exact absurd ⟨rfl, _, rfl, hcertificate, hkey, hsame⟩ (hwhole certificate key)
      · exact log_options_of_context rfl rfl hok

end Driver

/-! ## Settings that depart -/

/-- The driver takes the authorities of a bundle, and one file for certificate and key. -/
theorem reflects_of_given {b : Tls.Bundle} {o : DriverOptions}
    (hwhole : ∀ certificate key, b.stores.certificate = some certificate →
      b.stores.key = some key → FileSystem.samePath certificate key = true)
    (htls : o.tls = some
      (.enabled b.stores.authority (b.stores.certificate.or b.stores.key) [])) :
    (b.stores.authority ≠ none → Reflects b o .authority) ∧
      (b.stores.certificate ≠ none → Reflects b o .certificate) ∧
      (b.stores.key ≠ none → Reflects b o .key) := by
  refine ⟨fun hdeparts => ?_, fun hdeparts => ?_, fun hdeparts => ?_⟩
  · obtain ⟨path, hgiven⟩ := Option.ne_none_iff_exists'.mp hdeparts
    rw [hgiven] at htls
    exact .authority hgiven htls
  · obtain ⟨path, hgiven⟩ := Option.ne_none_iff_exists'.mp hdeparts
    rw [hgiven, Option.some_or] at htls
    exact .certificate hgiven htls
  · obtain ⟨path, hgiven⟩ := Option.ne_none_iff_exists'.mp hdeparts
    cases hcertificate : b.stores.certificate with
    | none =>
      rw [hcertificate, hgiven, Option.none_or] at htls
      exact .key hgiven htls (decide_eq_true rfl)
    | some certificate =>
      rw [hcertificate, Option.some_or] at htls
      exact .key hgiven htls (hwhole certificate path hcertificate hgiven)

/-- There is a warning for a password and for host names that are not checked. -/
theorem reported_of_given (stores : Tls.Stores) :
    (stores.keyPassword ≠ none → ∃ text, warningAbout .keyPassword = some text ∧
        LogEntry.warning text [] ∈ DriverOptions.unusable stores) ∧
      (stores.verifyHostname ≠ true → ∃ text, warningAbout .verifyHostname = some text ∧
        LogEntry.warning text [] ∈ DriverOptions.unusable stores) := by
  refine ⟨fun hdeparts => ⟨_, rfl, List.mem_append_left _ ?_⟩,
    fun hdeparts => ⟨_, rfl, List.mem_append_right _ ?_⟩⟩
  · rw [if_pos (Option.isSome_iff_ne_none.mpr hdeparts)]
    exact List.mem_singleton.mpr rfl
  · rw [if_neg hdeparts]
    exact List.mem_singleton.mpr rfl

/-- Nothing tells of the protocol. -/
theorem failed_of_accountedFor_protocol {b : Tls.Bundle} {x : Logged DriverOptions}
    (h : AccountedFor b x .protocol) : ∃ e, x.answer = .error e := by
  cases h with
  | reflected hok hreflects => cases hreflects
  | reported htext hlogged => cases htext
  | failed hfails => exact ⟨_, hfails⟩

section

variable {driver : Driver} {fs : FileSystem} {c : Standard} {s : ClientSettings} {b : Tls.Bundle}

theorem accountedFor_of_ne_protocol (hbrings : c.source.Brings b) {setting : Setting}
    (hdeparts : b.Departs setting) (hsetting : setting ≠ .protocol) :
    AccountedFor b (driver.optionsAfter fs c s) setting := by
  rw [driver.optionsAfter_eq fs s hbrings]
  cases hanswer : (driver.optionsFor fs s c.source.address b.stores b.options).answer with
  | error e => exact .failed hanswer
  | ok o =>
    obtain ⟨hfree, hwhole, htls, hlog⟩ := Driver.of_optionsFor_eq_ok hanswer
    obtain ⟨hciphers, hprotocols⟩ := b.options.isSpecified_eq_false_iff.mp hfree
    obtain ⟨hauthority, hcertificate, hkey⟩ := reflects_of_given hwhole htls
    obtain ⟨hpassword, hhostname⟩ := reported_of_given b.stores
    rw [← hlog] at hpassword hhostname
    cases setting with
    | authority => exact .reflected hanswer (hauthority hdeparts)
    | certificate => exact .reflected hanswer (hcertificate hdeparts)
    | key => exact .reflected hanswer (hkey hdeparts)
    | keyPassword =>
      obtain ⟨text, htext, hlogged⟩ := hpassword hdeparts
      exact .reported htext hlogged
    | verifyHostname =>
      obtain ⟨text, htext, hlogged⟩ := hhostname hdeparts
      exact .reported htext hlogged
    | ciphers => exact absurd hciphers hdeparts
    | enabledProtocols => exact absurd hprotocols hdeparts
    | protocol => exact absurd rfl hsetting

/-- A setting of a bundle that says more than one without material is accounted for, unless it is the
protocol: that one is lost wherever there are options, since they and the log are the same for every
protocol. -/
theorem accountedFor_iff (hbrings : c.source.Brings b) :
    (∀ setting, b.Departs setting →
      (AccountedFor b (driver.optionsAfter fs c s) setting ↔
        setting ≠ .protocol ∨ ∃ e, (driver.optionsAfter fs c s).answer = .error e)) ∧
      ∀ (other : Standard) (protocol : String), other.source.Brings { b with protocol } →
        other.source.address = c.source.address →
        driver.optionsAfter fs other s = driver.optionsAfter fs c s := by
  constructor
  · intro setting hdeparts
    constructor
    · intro haccounted
      by_cases hsetting : setting = .protocol
      · subst hsetting
        exact .inr (failed_of_accountedFor_protocol haccounted)
      · exact .inl hsetting
    · rintro (hsetting | ⟨e, hfails⟩)
      · exact accountedFor_of_ne_protocol hbrings hdeparts hsetting
      · exact .failed hfails
  · intro other protocol hother haddress
    rw [driver.optionsAfter_eq fs s hother, driver.optionsAfter_eq fs s hbrings, haddress]

end

/-- A bundle that asks for one version of the protocol. -/
def versionBundle (stores : Tls.Stores) : Tls.Bundle :=
  { Tls.Bundle.systemDefault with stores, protocol := "TLSv1.3" }

/-- Connection details with this bundle. -/
def versionDetails (stores : Tls.Stores) : Standard :=
  { source := .details ⟨tlsAddress, some (versionBundle stores)⟩, uuid := .standard, rank := 0 }

theorem departs_versionBundle (stores : Tls.Stores) : (versionBundle stores).Departs .protocol := by
  show Text.lower "TLSv1.3" ≠ Text.lower "TLS"
  decide

/-- A password, and host names that are not checked. -/
def uncheckedStores : Tls.Stores :=
  { Tls.Stores.none with keyPassword := some ⟨"secret"⟩, verifyHostname := false }

/-- Of three settings that the driver cannot use, two are reported. -/
theorem accountedFor_iff_unchecked :
    (versionDetails uncheckedStores).source.Brings (versionBundle uncheckedStores) ∧
      ∃ x, x = Driver.basic.optionsAfter (.ofFiles []) (versionDetails uncheckedStores) .empty ∧
        (∃ o, x.answer = .ok o) ∧ x.log.length = 2 ∧
        AccountedFor (versionBundle uncheckedStores) x .keyPassword ∧
        AccountedFor (versionBundle uncheckedStores) x .verifyHostname ∧
        ¬ AccountedFor (versionBundle uncheckedStores) x .protocol := by
  have hbrings : (versionDetails uncheckedStores).source.Brings (versionBundle uncheckedStores) :=
    .details rfl
  have hpassword : (versionBundle uncheckedStores).Departs .keyPassword := Option.some_ne_none _
  have hhostname : (versionBundle uncheckedStores).Departs .verifyHostname := Bool.false_ne_true
  have hprotocol := departs_versionBundle uncheckedStores
  obtain ⟨haccounted, -⟩ := @accountedFor_iff .basic (.ofFiles []) _ .empty _ hbrings
  refine ⟨hbrings, _, rfl, ⟨_, rfl⟩, rfl, ?_, ?_, fun hreported => ?_⟩
  · exact (haccounted _ hpassword).mpr (.inl (by decide))
  · exact (haccounted _ hhostname).mpr (.inl (by decide))
  · rcases (haccounted _ hprotocol).mp hreported with hother | ⟨e, hfails⟩
    · exact hother rfl
    · cases hfails

/-- With a version and nothing else, TLS is on as it is without one, and the log is empty. -/
theorem version_is_lost :
    (versionDetails .none).source.Brings (versionBundle .none) ∧
      (versionBundle .none).Departs .protocol ∧
      ∃ x, x = Driver.basic.optionsAfter (.ofFiles []) (versionDetails .none) .empty ∧
        x.answer = .ok
          { hosts := ["localhost:27017"], applicationName := none, defaultDatabase := some "test",
            replicaSet := none, tls := some (.enabled none none []), further := [] } ∧
        x.log = [] ∧ ¬ AccountedFor (versionBundle .none) x .protocol := by
  refine ⟨.details rfl, departs_versionBundle .none, _, rfl, rfl, rfl, fun hreported => ?_⟩
  obtain ⟨e, hfails⟩ := failed_of_accountedFor_protocol hreported
  cases hfails

end ClientWiring.Mongo
