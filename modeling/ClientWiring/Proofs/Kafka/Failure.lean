import ClientWiring.Proofs.Kafka.Endpoints
import ClientWiring.Proofs.Kafka.Wiring

/-!
# When an assembly fails

Three of the nine steps can fail, and the first of them that does decides the error:

    (assemble fs registry s supplied).answer = .error e ↔
      EndpointsFail registry s supplied e ∨
      (∀ e', ¬EndpointsFail registry s supplied e') ∧
        (LoginFails fs s supplied e ∨
        (∀ e', ¬LoginFails fs s supplied e') ∧ ManagerFails fs registry s supplied e)

Endpoints fail at the first bundle that cannot be resolved, the login at its flag or else at its
file, and the transaction manager at a producer factory that is not transactional.  The only file
that is looked at is the one of the login                                  (fails_with_first_fault).
-/

namespace ClientWiring

namespace Kafka

/-- The bundles that settings name, in the order in which they are looked up: the common one, then
those of consumer, producer, admin and streams. -/
def bundleNames (s : KafkaSettings) : List String :=
  s.bundle.toList ++ (s.consumer.role.bundle.toList ++ (s.producer.role.bundle.toList ++
    (s.admin.role.bundle.toList ++ s.streams.role.bundle.toList)))

namespace Endpoints

theorem looksUp_commonOfSettings (registry : Option Tls.Registry) (s : KafkaSettings) :
    Tls.LooksUp registry s.bundle.toList (commonOfSettings registry s) := by
  have hmap : commonOfSettings registry s = (Tls.resolveOptional registry s.bundle).map
      fun bundle => ⟨s.bootstrapServers, s.securityProtocol, bundle⟩ := by
    unfold commonOfSettings
    cases Tls.resolveOptional registry s.bundle <;> rfl
  rw [hmap]
  exact .of_resolveOptional _ _

theorem looksUp_ofRole (registry : Option Tls.Registry) (common : Endpoint) (s : RoleSettings) :
    Tls.LooksUp registry s.bundle.toList (ofRole registry common s) := by
  have hmap : ofRole registry common s = (Tls.resolveOptional registry s.bundle).map
      fun bundle => ⟨s.bootstrapServers.getD common.servers,
        s.securityProtocol.or common.protocol, bundle.or common.bundle⟩ := by
    unfold ofRole
    cases Tls.resolveOptional registry s.bundle <;> rfl
  rw [hmap]
  exact .of_resolveOptional _ _

/-- All bundles that are named are looked up, also the ones that are not used. -/
theorem looksUp_ofSettings (registry : Option Tls.Registry) (s : KafkaSettings) :
    Tls.LooksUp registry (bundleNames s) (ofSettings registry s) := by
  unfold ofSettings bundleNames
  refine .bind (looksUp_commonOfSettings registry s) fun common => ?_
  refine .bind (looksUp_ofRole registry common _) fun consumer => ?_
  refine .bind (looksUp_ofRole registry common _) fun producer => ?_
  refine .bind (looksUp_ofRole registry common _) fun admin => ?_
  rw [← List.append_nil s.streams.role.bundle.toList]
  exact .bind (looksUp_ofRole registry common _) fun streams => .ok _

end Endpoints

/-! ## Login -/

/-- Whether settings name a control flag that there is not. -/
def UnknownFlag (s : JaasSettings) (name : String) : Prop :=
  s.controlFlag = some name ∧
    name.toLower ∉ ["required", "requisite", "sufficient", "optional"]

/-- Why options cannot be taken: the file that they name cannot be opened. -/
def FileFault (fs : FileSystem) (options : SortedMap String) (fault : IoFault) : Prop :=
  ∃ path why, options.get? "keyTab" = some path ∧ fs.openFile path = .error why ∧
    fault = .cannotOpen why

/-- Why the login of settings cannot be made: the flag is unknown, or else the file cannot be
opened. -/
def LoginFault (fs : FileSystem) (s : JaasSettings) (fault : IoFault) : Prop :=
  (∃ name, UnknownFlag s name ∧ fault = .unknownControlFlag name.toLower) ∨
    (∀ name, ¬UnknownFlag s name) ∧ FileFault fs s.options fault

/-- The flags have four names. -/
theorem ControlFlag.parse_eq_error_iff (name : String) (fault : IoFault) :
    parse name = .error fault ↔
      name.toLower ∉ ["required", "requisite", "sufficient", "optional"] ∧
        fault = .unknownControlFlag name.toLower := by
  have hnames : ["required", "requisite", "sufficient", "optional"] = all.map ControlFlag.name := rfl
  have hnone : all.find? (·.name = Text.lower name) = none ↔
      Text.lower name ∉ all.map ControlFlag.name := by
    simp
  rw [hnames, ← Text.lower_eq_toLower, ← hnone]
  unfold parse
  dsimp only
  split
  · next flag hflag => simp [hflag]
  · next hflag =>
    simp only [hflag, Except.error.injEq, true_and]
    exact eq_comm

namespace Login

theorem flagOfSettings_eq_error_iff (s : JaasSettings) (fault : IoFault) :
    flagOfSettings s = .error fault ↔
      ∃ name, UnknownFlag s name ∧ fault = .unknownControlFlag name.toLower := by
  unfold flagOfSettings UnknownFlag
  cases s.controlFlag with
  | none => simp
  | some name =>
    simp only [ControlFlag.parse_eq_error_iff, Option.some.injEq, and_assoc, exists_eq_left']

theorem checkFile_eq_error_iff (fs : FileSystem) (options : SortedMap String) (fault : IoFault) :
    checkFile fs options = .error fault ↔ FileFault fs options fault := by
  unfold checkFile FileFault fileOption
  cases options.get? "keyTab" with
  | none => simp
  | some path =>
    cases hopen : fs.openFile path with
    | ok u => simp [hopen]
    | error why => simp [hopen, eq_comm]

theorem setOptions_eq_error_iff (fs : FileSystem) (l : Login) (options : SortedMap String)
    (fault : IoFault) : setOptions fs l options = .error fault ↔ FileFault fs options fault := by
  rw [← checkFile_eq_error_iff]
  unfold setOptions
  cases checkFile fs options <;> simp

/-- The flag is checked before the file. -/
theorem ofSettings_eq_error_iff (fs : FileSystem) (s : JaasSettings) (fault : IoFault) :
    ofSettings fs s = .error fault ↔ LoginFault fs s fault := by
  unfold LoginFault
  rw [← flagOfSettings_eq_error_iff]
  have hknown : (∀ name, ¬UnknownFlag s name) ↔ ∃ flag, flagOfSettings s = .ok flag := by
    cases hflag : flagOfSettings s with
    | ok flag =>
      have hnone : ∀ name, ¬UnknownFlag s name := fun name hname => by
        have herror := (flagOfSettings_eq_error_iff s _).mpr ⟨name, hname, rfl⟩
        rw [hflag] at herror
        cases herror
      simp [hnone]
    | error e =>
      obtain ⟨name, hname, -⟩ := (flagOfSettings_eq_error_iff s e).mp hflag
      simp only [reduceCtorEq, exists_false, iff_false]
      exact fun h => h name hname
  rw [hknown]
  unfold ofSettings
  cases flagOfSettings s with
  | error e => simp
  | ok flag => simp [setOptions_eq_error_iff]

end Login

/-! ## The three steps -/

section

variable {ε : Type}

/-- The endpoints are not supplied, and a bundle cannot be resolved; the first one counts. -/
def EndpointsFail (registry : Option Tls.Registry) (s : KafkaSettings) (supplied : Supplied ε)
    (e : AppError) : Prop :=
  supplied.endpoints = none ∧
    ∃ name, Tls.firstUnresolved? registry (bundleNames s) = some name ∧
      e = Tls.unresolved registry name

/-- The login is not supplied, is switched on and cannot be made. -/
def LoginFails (fs : FileSystem) (s : KafkaSettings) (supplied : Supplied ε) (e : AppError) :
    Prop :=
  supplied.login = none ∧ s.jaas.enabled = true ∧ ∃ fault, LoginFault fs s.jaas fault ∧ e = .io fault

/-- The producer factory in use: the supplied one, or the one that is made from the settings and then
changed by the customizers. -/
def FactoryInUse (fs : FileSystem) (registry : Option Tls.Registry) (s : KafkaSettings)
    (supplied : Supplied ε) (factory : ProducerFactory) : Prop :=
  supplied.producerFactory = some factory ∨
    supplied.producerFactory = none ∧ ∃ endpoints login,
      Assembly.endpoints registry s supplied.endpoints = .ok endpoints ∧
      Assembly.login fs s.jaas supplied.login = .ok login ∧
      factory = (Customizer.run supplied.producerCustomizers
        (Assembly.plainProducerFactory s endpoints.component login.component)).1

/-- The transaction manager is not supplied, is asked for, and the producer factory in use is not
transactional. -/
def ManagerFails (fs : FileSystem) (registry : Option Tls.Registry) (s : KafkaSettings)
    (supplied : Supplied ε) (e : AppError) : Prop :=
  supplied.transactionManager = none ∧
    (∃ p, s.producer.transactionIdPrefix = some p ∧ p ≠ "") ∧
    (∃ factory, FactoryInUse fs registry s supplied factory ∧ factory.isTransactional = false) ∧
    e = .notTransactional

namespace Assembly

theorem endpoints_eq_error_iff (registry : Option Tls.Registry) (s : KafkaSettings)
    (supplied : Supplied ε) (e : AppError) :
    endpoints registry s supplied.endpoints = .error e ↔ EndpointsFail registry s supplied e := by
  unfold EndpointsFail
  rw [← Endpoints.looksUp_ofSettings registry s e]
  cases supplied.endpoints with
  | some given => simp [endpoints]
  | none =>
    simp only [endpoints, true_and]
    cases Endpoints.ofSettings registry s <;> simp

theorem login_eq_error_iff (fs : FileSystem) (s : KafkaSettings) (supplied : Supplied ε)
    (e : AppError) : login fs s.jaas supplied.login = .error e ↔ LoginFails fs s supplied e := by
  unfold LoginFails
  simp only [← Login.ofSettings_eq_error_iff]
  cases supplied.login with
  | some given => simp [login]
  | none =>
    simp only [login, true_and]
    cases s.jaas.enabled with
    | false => simp
    | true => cases Login.ofSettings fs s.jaas <;> simp [eq_comm]

theorem transactionManager_eq_error_iff (s : ProducerSettings) (factory : ProducerFactory)
    (supplied : Option TransactionManager) (e : AppError) :
    transactionManager s factory supplied = .error e ↔
      supplied = none ∧ (∃ p, s.transactionIdPrefix = some p ∧ p ≠ "") ∧
        factory.isTransactional = false ∧ e = .notTransactional := by
  rw [← isSome_nonEmpty_iff]
  cases supplied with
  | some given => simp [transactionManager]
  | none =>
    simp only [transactionManager, TransactionManager.ofFactory, true_and]
    cases (Client.nonEmpty s.transactionIdPrefix).isSome with
    | false => simp
    | true => cases factory.isTransactional <;> simp [eq_comm]

/-- Once endpoints and login are there, one factory is in use. -/
theorem factoryInUse_iff {fs : FileSystem} {registry : Option Tls.Registry} {s : KafkaSettings}
    {supplied : Supplied ε} {endpoints : Made Endpoints} {login : Made (Option Login)}
    (he : Assembly.endpoints registry s supplied.endpoints = .ok endpoints)
    (hl : Assembly.login fs s.jaas supplied.login = .ok login) (factory : ProducerFactory) :
    FactoryInUse fs registry s supplied factory ↔
      factory = (finalProducerFactory s supplied endpoints login).component.1 := by
  unfold FactoryInUse finalProducerFactory producerFactory
  cases supplied.producerFactory with
  | some given => simp [Made.orElse, eq_comm]
  | none => simp [Made.orElse, he, hl]

end Assembly

open Assembly

/-- The first of the three steps that fails decides the error. -/
theorem assemble_eq_error_iff (fs : FileSystem) (registry : Option Tls.Registry)
    (s : KafkaSettings) (supplied : Supplied ε) (e : AppError) :
    (assemble fs registry s supplied).answer = .error e ↔
      EndpointsFail registry s supplied e ∨
      (∀ e', ¬EndpointsFail registry s supplied e') ∧
        (LoginFails fs s supplied e ∨
        (∀ e', ¬LoginFails fs s supplied e') ∧ ManagerFails fs registry s supplied e) := by
  simp only [answer_assemble, bind_eq_error_iff, ← endpoints_eq_error_iff, ← login_eq_error_iff]
  cases he : Assembly.endpoints registry s supplied.endpoints with
  | error e' => simp
  | ok endpoints =>
    cases hl : Assembly.login fs s.jaas supplied.login with
    | error e' => simp
    | ok login =>
      simp [ManagerFails, factoryInUse_iff he hl, transactionManager_eq_error_iff]

/-! ## What has no part in it -/

/-- Of all files only the one of a login that is to be made is looked at. -/
theorem assemble_congr_files {fs fs' : FileSystem} {s : KafkaSettings} {supplied : Supplied ε}
    (h : supplied.login = none → s.jaas.enabled = true →
      ∀ path, s.jaas.options.get? Login.fileOption = some path →
        fs'.openFile path = fs.openFile path)
    (registry : Option Tls.Registry) :
    assemble fs' registry s supplied = assemble fs registry s supplied := by
  have hlogin : Assembly.login fs' s.jaas supplied.login =
      Assembly.login fs s.jaas supplied.login := by
    cases hsupplied : supplied.login with
    | some given => rfl
    | none =>
      cases henabled : s.jaas.enabled with
      | false => simp [Assembly.login, henabled]
      | true =>
        have hfile : Login.checkFile fs' s.jaas.options = Login.checkFile fs s.jaas.options := by
          unfold Login.checkFile
          cases hpath : s.jaas.options.get? Login.fileOption with
          | none => rfl
          | some path => simp only [h hsupplied henabled path hpath]
        simp only [Assembly.login, Login.ofSettings, Login.setOptions, hfile]
  unfold assemble
  rw [hlogin]

/-- The factory that is made has the prefix for which a manager is asked for. -/
theorem not_managerFails {fs : FileSystem} {registry : Option Tls.Registry} {s : KafkaSettings}
    {supplied : Supplied ε} (hfactory : supplied.producerFactory = none)
    (hcustomizers : supplied.producerCustomizers = []) (e : AppError) :
    ¬ManagerFails fs registry s supplied e := by
  rintro ⟨-, hprefix, ⟨factory, hgiven | ⟨-, endpoints, login, -, -, hmade⟩, hplain⟩, -⟩
  · rw [hfactory] at hgiven
    cases hgiven
  · rw [hcustomizers, Customizer.run_nil] at hmade
    rw [← isSome_nonEmpty_iff] at hprefix
    have htransactional : factory.isTransactional = true := by
      rw [hmade]
      exact hprefix
    rw [hplain] at htransactional
    cases htransactional

/-! ## The law -/

/-- An assembly fails exactly if one of three steps does, and with the error of the first of them.
No file but the one of the login has a part in it, and neither has the manager as long as the caller
leaves the producer factory alone. -/
theorem fails_with_first_fault (fs : FileSystem) (registry : Option Tls.Registry)
    (s : KafkaSettings) (supplied : Supplied ε) :
    ((∃ e, (assemble fs registry s supplied).answer = .error e) ↔
      ∃ e, EndpointsFail registry s supplied e ∨ LoginFails fs s supplied e ∨
        ManagerFails fs registry s supplied e) ∧
    (∀ e, (assemble fs registry s supplied).answer = .error e ↔
      EndpointsFail registry s supplied e ∨
      (∀ e', ¬EndpointsFail registry s supplied e') ∧
        (LoginFails fs s supplied e ∨
        (∀ e', ¬LoginFails fs s supplied e') ∧ ManagerFails fs registry s supplied e)) ∧
    (∀ e, LoginFails fs s supplied e → e.kind = .io) ∧
    (∀ e, ManagerFails fs registry s supplied e → e.kind = .illegalState) ∧
    (∀ fs' : FileSystem, (supplied.login = none → s.jaas.enabled = true →
        ∀ path, s.jaas.options.get? "keyTab" = some path →
          fs'.openFile path = fs.openFile path) →
      assemble fs' registry s supplied = assemble fs registry s supplied) ∧
    (supplied.producerFactory = none → supplied.producerCustomizers = [] →
      ∀ e, ¬ManagerFails fs registry s supplied e) := by
  have hfirst := assemble_eq_error_iff fs registry s supplied
  refine ⟨?_, hfirst, ?_, ?_, fun fs' hfiles => assemble_congr_files hfiles registry,
    not_managerFails⟩
  · constructor
    · rintro ⟨e, he⟩
      refine ⟨e, ?_⟩
      rcases (hfirst e).mp he with h | ⟨-, h | ⟨-, h⟩⟩
      · exact .inl h
      · exact .inr (.inl h)
      · exact .inr (.inr h)
    · rintro ⟨e, h⟩
      -- the error itself may be another one, that of an earlier step
      by_cases hendpoints : ∃ e', EndpointsFail registry s supplied e'
      · obtain ⟨e', he'⟩ := hendpoints
        exact ⟨e', (hfirst e').mpr (.inl he')⟩
      by_cases hlogin : ∃ e', LoginFails fs s supplied e'
      · obtain ⟨e', he'⟩ := hlogin
        exact ⟨e', (hfirst e').mpr (.inr ⟨not_exists.mp hendpoints, .inl he'⟩)⟩
      · rcases h with h | h | h
        · exact absurd ⟨e, h⟩ hendpoints
        · exact absurd ⟨e, h⟩ hlogin
        · exact ⟨e, (hfirst e).mpr
            (.inr ⟨not_exists.mp hendpoints, .inr ⟨not_exists.mp hlogin, h⟩⟩)⟩
  · rintro e ⟨-, -, fault, -, rfl⟩
    rfl
  · rintro e ⟨-, -, -, rfl⟩
    rfl

end

/-- A bundle, a login with a key file, and ids for transactions. -/
def keyFileSettings : KafkaSettings :=
  { KafkaSettings.default with
    bundle := some "web"
    producer := { ProducerSettings.default with transactionIdPrefix := some "tx-" }
    jaas := { JaasSettings.default with
      enabled := true, options := .ofList [("keyTab", "/etc/krb5.keytab")] } }

/-- The bundle names a file. -/
def webRegistry : Tls.Registry :=
  ⟨.ofList [("web", { Tls.Bundle.systemDefault with
    stores := { Tls.Stores.none with authority := some "/etc/ssl/ca.pem" } })]⟩

/-- The key file is there, and the file of the bundle is not. -/
def keyFiles : FileSystem := .ofFiles [("/etc/krb5.keytab", "")]

/-- Both files are there. -/
def allFiles : FileSystem := .ofFiles [("/etc/krb5.keytab", ""), ("/etc/ssl/ca.pem", "")]

/-- A customizer takes the prefix of the producer factory away. -/
def takingPrefix : Supplied Unit :=
  { Supplied.nothing with
    producerCustomizers := [⟨0, fun f => ({ f with transactionIdPrefix := none }, [])⟩] }

/-- The factory in use has lost its prefix, so that the manager fails; without the customizer it does
not.  The file of the bundle is there or not.  Where the key file may not be read, the login fails
before the manager. -/
theorem fails_with_first_fault_keyFile :
    ManagerFails keyFiles (some webRegistry) keyFileSettings takingPrefix .notTransactional ∧
    (∃ e, (assemble keyFiles (some webRegistry) keyFileSettings takingPrefix).answer = .error e) ∧
    assemble allFiles (some webRegistry) keyFileSettings takingPrefix =
      assemble keyFiles (some webRegistry) keyFileSettings takingPrefix ∧
    (assemble .locked (some webRegistry) keyFileSettings takingPrefix).answer =
      .error (.io (.cannotOpen (.refused .permissionDenied))) ∧
    ∀ e, ¬ManagerFails keyFiles (some webRegistry) keyFileSettings
      (Supplied.nothing : Supplied Unit) e := by
  obtain ⟨hfails, -, -, -, hfiles, -⟩ :=
    fails_with_first_fault keyFiles (some webRegistry) keyFileSettings takingPrefix
  obtain ⟨-, -, -, -, -, hplain⟩ :=
    fails_with_first_fault keyFiles (some webRegistry) keyFileSettings
      (Supplied.nothing : Supplied Unit)
  obtain ⟨-, hfirst, -⟩ :=
    fails_with_first_fault .locked (some webRegistry) keyFileSettings takingPrefix
  have hmanager : ManagerFails keyFiles (some webRegistry) keyFileSettings takingPrefix
      .notTransactional := by
    refine ⟨rfl, ⟨"tx-", rfl, by decide⟩, ⟨_, .inr ⟨rfl, _, _, rfl, rfl, rfl⟩, ?_⟩, rfl⟩
    simp [takingPrefix, Customizer.run, byRank, Customizer.runInOrder,
      ProducerFactory.isTransactional]
  have hfound : ∀ e, ¬EndpointsFail (some webRegistry) keyFileSettings takingPrefix e := by
    rintro e ⟨-, name, hname, -⟩
    cases hname
  have hlogin : LoginFails .locked keyFileSettings takingPrefix
      (.io (.cannotOpen (.refused .permissionDenied))) :=
    ⟨rfl, rfl, _, .inr ⟨fun _ hflag => (nomatch hflag.1), _, _, rfl, rfl, rfl⟩, rfl⟩
  refine ⟨hmanager, hfails.mpr ⟨_, .inr (.inr hmanager)⟩, hfiles _ ?_,
    (hfirst _).mpr (.inr ⟨hfound, .inl hlogin⟩), hplain rfl rfl⟩
  intro _ _ path hpath
  cases hpath
  rfl

end Kafka

end ClientWiring
