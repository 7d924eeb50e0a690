import ClientWiring.Proofs.Kafka.Wiring
import ClientWiring.Startup.Infrastructure

/-!
# What start-up counts

Start-up takes the stages registry, Kafka and MongoDB, and ends at the first that fails.  `Course`
lists the ways in which it can end, each with the components that are counted by then:

    registryFails      nothing
    kafkaFails         the registry, and no step of Kafka
    detailsFail        the registry and all steps of Kafka
    customizerFails    the same, and the details for MongoDB
    withoutMongo       the registry and all steps of Kafka
    withMongo          the same, and the details and settings for MongoDB

Every start-up takes one of these courses and no other                          (course_iff).
-/

namespace ClientWiring.Startup

open Kafka (Outcome)

variable {ε α β : Type}

/-! ## Courses -/

/-- The labels of an increment: a component and an outcome. -/
def Increment.labels (i : Increment) : String × String := (i.component.name, i.outcome.name)

/-- The labels for a component that is skipped if it is supplied, and else created. -/
def labelsOf (component : String) (isSupplied : Bool) : String × String :=
  (component, if isSupplied then "skipped" else "created")

/-- The labels for the steps of Kafka, if it is configured. -/
def kafkaLabels : Option Kafka.Components → List (String × String)
  | none => []
  | some c => c.report.map fun step => (step.component.name, step.outcome.name)

section

variable (fs : FileSystem) (s : AppSettings) (overrides : Overrides ε)

/-- The registry in use: the supplied one, or the one that the settings describe. -/
def RegistryInUse (registry : Tls.Registry) : Prop :=
  overrides.registry = some registry ∨
    overrides.registry = none ∧ Tls.Registry.ofSettings s.tls = .ok registry

/-- What the stage of Kafka came to: components, or nothing when it is not configured. -/
def KafkaDone (registry : Tls.Registry) : Option Kafka.Components → Prop
  | none => s.kafka = none
  | some c => ∃ k, s.kafka = some k ∧
      (Kafka.assemble fs (some registry) k overrides.kafka).answer = .ok c

/-- The details in use for MongoDB: the supplied ones, or those that the settings describe. -/
def DetailsInUse (registry : Tls.Registry) (m : MongoSettings) (details : Mongo.Details) : Prop :=
  overrides.mongoDetails = some details ∨
    overrides.mongoDetails = none ∧ Mongo.Details.ofSettings (some registry) m = .ok details

/-- The factory of MongoDB clients: before the customizers of the caller comes one of rank 0 that takes
connection string and bundle from the details in use. -/
def factoryOver (m : MongoSettings) (details : Mongo.Details) : Mongo.ClientFactory :=
  ⟨{ rank := 0
     apply := Mongo.Standard.apply fs
       { source := .details details, uuid := m.uuidRepresentation, rank := 0 } } ::
    overrides.mongoCustomizers⟩

/-- The ways in which start-up ends, each with what it answers and with the labels of what it has
counted by then. -/
inductive Course : Except AppError Infrastructure → List (String × String) → Prop
  | registryFails {e} (hsupplied : overrides.registry = none)
      (hfails : Tls.Registry.ofSettings s.tls = .error e) : Course (.error e) []
  | kafkaFails {registry k e} (hregistry : RegistryInUse s overrides registry)
      (hconfigured : s.kafka = some k)
      (hfails : (Kafka.assemble fs (some registry) k overrides.kafka).answer = .error e) :
      Course (.error e) [labelsOf "ssl_bundles" overrides.registry.isSome]
  | detailsFail {registry kafka m e} (hregistry : RegistryInUse s overrides registry)
      (hkafka : KafkaDone fs s overrides registry kafka) (hconfigured : s.mongo = some m)
      (hsupplied : overrides.mongoDetails = none)
      (hfails : Mongo.Details.ofSettings (some registry) m = .error e) :
      Course (.error e) (labelsOf "ssl_bundles" overrides.registry.isSome :: kafkaLabels kafka)
  | customizerFails {registry kafka m details e} (hregistry : RegistryInUse s overrides registry)
      (hkafka : KafkaDone fs s overrides registry kafka) (hconfigured : s.mongo = some m)
      (hdetails : DetailsInUse overrides registry m details)
      (hfails : (factoryOver fs overrides m details).settings = .error e) :
      Course (.error e) (labelsOf "ssl_bundles" overrides.registry.isSome :: kafkaLabels kafka ++
        [labelsOf "mongo_connection_details" overrides.mongoDetails.isSome])
  | withoutMongo {registry kafka} (hregistry : RegistryInUse s overrides registry)
      (hkafka : KafkaDone fs s overrides registry kafka) (hconfigured : s.mongo = none) :
      Course (.ok { settings := s, registry, kafka, mongo := none })
        (labelsOf "ssl_bundles" overrides.registry.isSome :: kafkaLabels kafka)
  | withMongo {registry kafka m details settings} (hregistry : RegistryInUse s overrides registry)
      (hkafka : KafkaDone fs s overrides registry kafka) (hconfigured : s.mongo = some m)
      (hdetails : DetailsInUse overrides registry m details)
      (hsettings : (factoryOver fs overrides m details).settings = .ok settings) :
      Course
        (.ok { settings := s, registry, kafka,
               mongo := some ⟨factoryOver fs overrides m details, settings⟩ })
        (labelsOf "ssl_bundles" overrides.registry.isSome :: kafkaLabels kafka ++
          [labelsOf "mongo_connection_details" overrides.mongoDetails.isSome,
           ("mongo_client_settings", "created")])

end

/-! ## Stages -/

namespace Stage

/-- A stage ends with this answer, and has counted increments with these labels. -/
structure Ends (stage : Stage ε α) (answer : Except AppError α)
    (counted : List (String × String)) : Prop where
  answer : stage.answer = answer
  counted : stage.counted.map Increment.labels = counted

variable {stage : Stage ε α} {next : α → Stage ε β}

/-- A further stage adds to what the stages before it have counted. -/
theorem Ends.andThen {a : α} {answer : Except AppError β} {counted more : List (String × String)}
    (h : stage.Ends (.ok a) counted) (hnext : (next a).Ends answer more) :
    (stage.andThen next).Ends answer (counted ++ more) := by
  have hcounted : (stage.counted ++ (next a).counted).map Increment.labels = counted ++ more := by
    rw [List.map_append, h.counted, hnext.counted]
  unfold Stage.andThen
  rw [h.answer]
  exact ⟨hnext.answer, hcounted⟩

/-- After a failure nothing more is counted. -/
theorem Ends.andThen_error {e : AppError} {counted : List (String × String)}
    (h : stage.Ends (.error e) counted) : (stage.andThen next).Ends (.error e) counted := by
  unfold Stage.andThen
  rw [h.answer]
  exact ⟨rfl, h.counted⟩

end Stage

namespace Infrastructure

variable {fs : FileSystem} {s : AppSettings} {overrides : Overrides ε} {registry : Tls.Registry}

theorem registryStage_ends (h : RegistryInUse s overrides registry) :
    (registryStage s.tls overrides.registry : Stage ε Tls.Registry).Ends (.ok registry)
      [labelsOf "ssl_bundles" overrides.registry.isSome] := by
  rcases h with h | ⟨hnone, hmade⟩
  · rw [h]
    exact ⟨rfl, rfl⟩
  · rw [hnone]
    simp only [registryStage, hmade]
    exact ⟨rfl, rfl⟩

theorem registryStage_ends_error {e : AppError} (hnone : overrides.registry = none)
    (h : Tls.Registry.ofSettings s.tls = .error e) :
    (registryStage s.tls overrides.registry : Stage ε Tls.Registry).Ends (.error e) [] := by
  rw [hnone]
  simp only [registryStage, h]
  exact ⟨rfl, rfl⟩

theorem kafkaStage_ends {kafka : Option Kafka.Components}
    (h : KafkaDone fs s overrides registry kafka) :
    (kafkaStage fs registry overrides.kafka s.kafka).Ends (.ok kafka) (kafkaLabels kafka) := by
  cases kafka with
  | none =>
    have hnone : s.kafka = none := h
    rw [hnone]
    exact ⟨rfl, rfl⟩
  | some c =>
    obtain ⟨k, hk, hc⟩ := h
    rw [hk]
    simp only [kafkaStage, hc]
    refine ⟨rfl, ?_⟩
    simp [Increment.ofReport, kafkaLabels, Increment.labels, Component.name]

/-- The steps are counted all at once, when the last of them is done. -/
theorem kafkaStage_ends_error {k : KafkaSettings} {e : AppError} (hk : s.kafka = some k)
    (h : (Kafka.assemble fs (some registry) k overrides.kafka).answer = .error e) :
    (kafkaStage fs registry overrides.kafka s.kafka).Ends (.error e) [] := by
  rw [hk]
  simp only [kafkaStage, h]
  exact ⟨rfl, rfl⟩

theorem mongoDetailsStage_ends {m : MongoSettings} {details : Mongo.Details}
    (h : DetailsInUse overrides registry m details) :
    (mongoDetailsStage registry m overrides.mongoDetails : Stage ε Mongo.Details).Ends
      (.ok details) [labelsOf "mongo_connection_details" overrides.mongoDetails.isSome] := by
  rcases h with h | ⟨hnone, hmade⟩
  · rw [h]
    exact ⟨rfl, rfl⟩
  · rw [hnone]
    simp only [mongoDetailsStage, hmade]
    exact ⟨rfl, rfl⟩

theorem mongoDetailsStage_ends_error {m : MongoSettings} {e : AppError}
    (hnone : overrides.mongoDetails = none)
    (h : Mongo.Details.ofSettings (some registry) m = .error e) :
    (mongoDetailsStage registry m overrides.mongoDetails : Stage ε Mongo.Details).Ends
      (.error e) [] := by
  rw [hnone]
  simp only [mongoDetailsStage, h]
  exact ⟨rfl, rfl⟩

theorem mongoSettingsStage_ends {factory : Mongo.ClientFactory} {settings : Mongo.ClientSettings}
    (h : factory.settings = .ok settings) :
    (mongoSettingsStage factory : Stage ε MongoClients).Ends (.ok ⟨factory, settings⟩)
      [("mongo_client_settings", "created")] := by
  simp only [mongoSettingsStage, h]
  exact ⟨rfl, rfl⟩

theorem mongoSettingsStage_ends_error {factory : Mongo.ClientFactory} {e : AppError}
    (h : factory.settings = .error e) :
    (mongoSettingsStage factory : Stage ε MongoClients).Ends (.error e) [] := by
  simp only [mongoSettingsStage, h]
  exact ⟨rfl, rfl⟩

/-! ## Whole start-ups -/

/-- When registry and Kafka are done, MongoDB is what remains. -/
theorem assemble_ends {kafka : Option Kafka.Components} {answer : Except AppError Infrastructure}
    {counted : List (String × String)} (hregistry : RegistryInUse s overrides registry)
    (hkafka : KafkaDone fs s overrides registry kafka)
    (hmongo : ((mongoStage fs registry overrides.mongoDetails overrides.mongoCustomizers
      s.mongo).andThen fun mongo => ⟨.ok { settings := s, registry, kafka, mongo }, [], []⟩ :
        Stage ε Infrastructure).Ends answer counted) :
    (assemble fs s overrides).Ends answer
      (labelsOf "ssl_bundles" overrides.registry.isSome :: kafkaLabels kafka ++ counted) := by
  unfold assemble
  exact (registryStage_ends hregistry).andThen ((kafkaStage_ends hkafka).andThen hmongo)

/-- What a course says is what start-up does. -/
theorem ends_of_course {answer : Except AppError Infrastructure}
    {counted : List (String × String)} (h : Course fs s overrides answer counted) :
    (assemble fs s overrides).Ends answer counted := by
  cases h with
  | registryFails hsupplied hfails =>
    exact (registryStage_ends_error hsupplied hfails).andThen_error
  | kafkaFails hregistry hconfigured hfails =>
    exact (registryStage_ends hregistry).andThen
      (kafkaStage_ends_error hconfigured hfails).andThen_error
  | detailsFail hregistry hkafka hconfigured hsupplied hfails =>
    rw [← List.append_nil (_ :: _)]
    refine assemble_ends hregistry hkafka ?_
    rw [hconfigured]
    exact (mongoDetailsStage_ends_error hsupplied hfails).andThen_error.andThen_error
  | customizerFails hregistry hkafka hconfigured hdetails hfails =>
    refine assemble_ends hregistry hkafka ?_
    rw [hconfigured]
    exact ((mongoDetailsStage_ends hdetails).andThen
      (mongoSettingsStage_ends_error hfails).andThen_error).andThen_error
  | withoutMongo hregistry hkafka hconfigured =>
    rw [← List.append_nil (_ :: _)]
    refine assemble_ends hregistry hkafka ?_
    rw [hconfigured]
    exact ⟨rfl, rfl⟩
  | withMongo hregistry hkafka hconfigured hdetails hsettings =>
    refine assemble_ends hregistry hkafka ?_
    rw [hconfigured]
    have hclients : (mongoStage fs _ overrides.mongoDetails overrides.mongoCustomizers (some _) :
        Stage ε (Option MongoClients)).Ends _ _ :=
      (mongoDetailsStage_ends hdetails).andThen
        ((mongoSettingsStage_ends hsettings).andThen ⟨rfl, rfl⟩)
    exact hclients.andThen ⟨rfl, rfl⟩

/-- What is supplied or can be made is in use, unless making it fails. -/
theorem inUse_or_fails (supplied : Option α) (made : Except AppError α) :
    (∃ a, supplied = some a ∨ supplied = none ∧ made = .ok a) ∨
      ∃ e, supplied = none ∧ made = .error e := by
  cases supplied with
  | some a => exact .inl ⟨a, .inl rfl⟩
  | none =>
    cases made with
    | ok a => exact .inl ⟨a, .inr ⟨rfl, rfl⟩⟩
    | error e => exact .inr ⟨e, rfl, rfl⟩

theorem kafkaDone_or_fails (fs : FileSystem) (s : AppSettings) (overrides : Overrides ε)
    (registry : Tls.Registry) :
    (∃ kafka, KafkaDone fs s overrides registry kafka) ∨
      ∃ k e, s.kafka = some k ∧
        (Kafka.assemble fs (some registry) k overrides.kafka).answer = .error e := by
  cases hconfigured : s.kafka with
  | none => exact .inl ⟨none, hconfigured⟩
  | some k =>
    cases hanswer : (Kafka.assemble fs (some registry) k overrides.kafka).answer with
    | ok c => exact .inl ⟨some c, k, hconfigured, hanswer⟩
    | error e => exact .inr ⟨k, e, rfl, hanswer⟩

/-- Every start-up takes some course. -/
theorem exists_course (fs : FileSystem) (s : AppSettings) (overrides : Overrides ε) :
    ∃ answer counted, Course fs s overrides answer counted := by
  rcases inUse_or_fails overrides.registry (Tls.Registry.ofSettings s.tls) with
    ⟨registry, hregistry⟩ | ⟨e, hsupplied, hfails⟩
  · rcases kafkaDone_or_fails fs s overrides registry with ⟨kafka, hkafka⟩ | ⟨k, e, hk, hfails⟩
    · cases hconfigured : s.mongo with
      | none => exact ⟨_, _, .withoutMongo hregistry hkafka hconfigured⟩
      | some m =>
        rcases inUse_or_fails overrides.mongoDetails (Mongo.Details.ofSettings (some registry) m)
          with ⟨details, hdetails⟩ | ⟨e, hsupplied, hfails⟩
        · cases hsettings : (factoryOver fs overrides m details).settings with
          | ok settings =>
            exact ⟨_, _, .withMongo hregistry hkafka hconfigured hdetails hsettings⟩
          | error e =>
            exact ⟨_, _, .customizerFails hregistry hkafka hconfigured hdetails hsettings⟩
        · exact ⟨_, _, .detailsFail hregistry hkafka hconfigured hsupplied hfails⟩
    · exact ⟨_, _, .kafkaFails hregistry hk hfails⟩
  · exact ⟨_, _, .registryFails hsupplied hfails⟩

/-- Where Kafka is configured all its steps are counted. -/
theorem map_fst_kafkaLabels {kafka : Option Kafka.Components}
    (h : KafkaDone fs s overrides registry kafka) :
    (kafkaLabels kafka).map Prod.fst =
      if s.kafka.isSome then Kafka.Component.inOrder.map Kafka.Component.name else [] := by
  cases kafka with
  | none =>
    have hnone : s.kafka = none := h
    rw [hnone]
    rfl
  | some c =>
    obtain ⟨k, hk, hc⟩ := h
    obtain ⟨e, l, m, he, hl, hm, rfl⟩ :=
      (Kafka.assemble_eq_ok_iff fs (some registry) k overrides.kafka c).mp hc
    rw [hk, kafkaLabels, Kafka.Assembly.report_finish he hl hm]
    rfl

/-- Start-up takes one course and no other: it answers what the course says and has counted what the
course says by then.  The steps of Kafka are all nine, if it is configured. -/
theorem course_iff (fs : FileSystem) (s : AppSettings) (overrides : Overrides ε) :
    (∀ answer counted, Course fs s overrides answer counted ↔
      (assemble fs s overrides).answer = answer ∧
        (assemble fs s overrides).counted.map Increment.labels = counted) ∧
    ∀ registry kafka, KafkaDone fs s overrides registry kafka →
      (kafkaLabels kafka).map Prod.fst =
        if s.kafka.isSome then
          ["connection_details", "jaas_initializer", "producer_listener", "producer_factory",
           "consumer_factory", "template", "transaction_manager", "admin",
           "retry_topic_configuration"]
        else [] := by
  refine ⟨fun answer counted => ?_, fun registry kafka hkafka => map_fst_kafkaLabels hkafka⟩
  constructor
  · intro h
    obtain ⟨hanswer, hcounted⟩ := ends_of_course h
    exact ⟨hanswer, hcounted⟩
  · rintro ⟨rfl, rfl⟩
    obtain ⟨answer, counted, h⟩ := exists_course fs s overrides
    obtain ⟨rfl, rfl⟩ := ends_of_course h
    exact h

/-- Kafka and a connection string that cannot be read. -/
def unreadableSettings : AppSettings :=
  { appName := "svc", appEnv := AppSettings.defaultEnv, telemetry := .default, tls := .default,
    kafka := some .default
    mongo := some { MongoSettings.default with uri := some ⟨"nowhere"⟩ } }

/-- The details for MongoDB fail after the steps of Kafka, which stay counted. -/
theorem course_iff_unreadable :
    (assemble (.ofFiles []) unreadableSettings (Overrides.nothing : Overrides Unit)).answer =
      .error .unknownScheme ∧
    (assemble (.ofFiles []) unreadableSettings (Overrides.nothing : Overrides Unit)).counted.map
        Increment.labels =
      [("ssl_bundles", "created"), ("connection_details", "created"),
       ("jaas_initializer", "skipped"), ("producer_listener", "created"),
       ("producer_factory", "created"), ("consumer_factory", "created"), ("template", "created"),
       ("transaction_manager", "skipped"), ("admin", "created"),
       ("retry_topic_configuration", "skipped")] ∧
    ∃ c, KafkaDone (.ofFiles []) unreadableSettings (Overrides.nothing : Overrides Unit) .empty (some c) ∧
      (kafkaLabels (some c)).length = 9 := by
  obtain ⟨hcourse, hnine⟩ :=
    course_iff (.ofFiles []) unreadableSettings (Overrides.nothing : Overrides Unit)
  let components : Kafka.Components := Kafka.Assembly.defaultComponents .default
    ⟨.uniform ⟨KafkaSettings.defaultServers, none, none⟩, .created⟩ ⟨none, .skipped⟩
  have hkafka : KafkaDone (.ofFiles []) unreadableSettings (Overrides.nothing : Overrides Unit) .empty
      (some components) := by
    refine ⟨_, rfl, ?_⟩
    show (Kafka.assemble (.ofFiles []) _ _ Kafka.Supplied.nothing).answer = _
    rw [Kafka.answer_assemble_nothing]
    rfl
  obtain ⟨hanswer, hcounted⟩ := (hcourse _ _).mp
    (.detailsFail (.inr ⟨rfl, rfl⟩) hkafka rfl rfl rfl)
  refine ⟨hanswer, hcounted, components, hkafka, ?_⟩
  rw [← List.length_map Prod.fst, hnine _ _ hkafka]
  rfl

end Infrastructure

end ClientWiring.Startup
