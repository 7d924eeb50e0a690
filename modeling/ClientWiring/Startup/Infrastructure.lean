import ClientWiring.Kafka.Assembly
import ClientWiring.Mongo.DriverOptions
import ClientWiring.Settings.App
import ClientWiring.Startup.Counters

/-!
# Assembly of all clients

The stages are the registry of TLS bundles, Kafka, and MongoDB; the last two only when they are
configured.  What the caller supplies takes the place of what the settings describe.  The first
failure ends the assembly; the increments of the stages that were completed before it stay counted.
-/

namespace ClientWiring.Startup

/-- What the caller supplies. -/
structure Overrides (ε : Type) where
  registry : Option Tls.Registry
  kafka : Kafka.Supplied ε
  mongoDetails : Option Mongo.Details
  /-- They run beside the standard customizer. -/
  mongoCustomizers : List Mongo.Customizer

/-- Nothing is supplied. -/
def Overrides.nothing {ε : Type} : Overrides ε := ⟨none, .nothing, none, []⟩

/-- The factory of MongoDB clients, with the settings that it gives. -/
structure MongoClients where
  factory : Mongo.ClientFactory
  settings : Mongo.ClientSettings

/-- Everything that was assembled. -/
structure Infrastructure where
  settings : AppSettings
  registry : Tls.Registry
  kafka : Option Kafka.Components
  mongo : Option MongoClients

/-- How a stage ended, what it counted, and what customizers noted in it. -/
structure Stage (ε α : Type) where
  answer : Except AppError α
  counted : List Increment
  notes : List ε

namespace Stage

variable {ε α β : Type}

/-- Goes on with a further stage, unless this one failed. -/
def andThen (s : Stage ε α) (next : α → Stage ε β) : Stage ε β :=
  match s.answer with
  | .error e => ⟨.error e, s.counted, s.notes⟩
  | .ok a =>
    let t := next a
    ⟨t.answer, s.counted ++ t.counted, s.notes ++ t.notes⟩

end Stage

namespace Infrastructure

variable {ε : Type}

/-- The first stage: the registry of TLS bundles. -/
def registryStage (s : TlsSettings) : Option Tls.Registry → Stage ε Tls.Registry
  | some registry => ⟨.ok registry, [⟨.tlsBundles, .skipped⟩], []⟩
  | none =>
    match Tls.Registry.ofSettings s with
    | .ok registry => ⟨.ok registry, [⟨.tlsBundles, .created⟩], []⟩
    | .error e => ⟨.error e, [], []⟩

/-- The second stage: Kafka, whose steps are counted when all of them are done. -/
def kafkaStage (fs : FileSystem) (registry : Tls.Registry) (supplied : Kafka.Supplied ε) :
    Option KafkaSettings → Stage ε (Option Kafka.Components)
  | none => ⟨.ok none, [], []⟩
  | some s =>
    let assembled := Kafka.assemble fs (some registry) s supplied
    match assembled.answer with
    | .ok components =>
      ⟨.ok (some components), Increment.ofReport components.report, assembled.notes⟩
    | .error e => ⟨.error e, [], assembled.notes⟩

/-- The details for MongoDB. -/
def mongoDetailsStage (registry : Tls.Registry) (s : MongoSettings) :
    Option Mongo.Details → Stage ε Mongo.Details
  | some details => ⟨.ok details, [⟨.mongoDetails, .skipped⟩], []⟩
  | none =>
    match Mongo.Details.ofSettings (some registry) s with
    | .ok details => ⟨.ok details, [⟨.mongoDetails, .created⟩], []⟩
    | .error e => ⟨.error e, [], []⟩

/-- The factory with the standard customizer before those of the caller. -/
def mongoFactory (fs : FileSystem) (details : Mongo.Details) (uuid : UuidRepresentation)
    (customizers : List Mongo.Customizer) : Mongo.ClientFactory :=
  let standard : Mongo.Standard := { source := .details details, uuid, rank := 0 }
  ⟨standard.toCustomizer fs :: customizers⟩

/-- The settings of MongoDB clients. -/
def mongoSettingsStage (factory : Mongo.ClientFactory) : Stage ε MongoClients :=
  match factory.settings with
  | .ok settings => ⟨.ok ⟨factory, settings⟩, [⟨.mongoSettings, .created⟩], []⟩
  | .error e => ⟨.error e, [], []⟩

/-- The third stage: MongoDB. -/
def mongoStage (fs : FileSystem) (registry : Tls.Registry) (supplied : Option Mongo.Details)
    (customizers : List Mongo.Customizer) : Option MongoSettings → Stage ε (Option MongoClients)
  | none => ⟨.ok none, [], []⟩
  | some s =>
    (mongoDetailsStage registry s supplied).andThen fun details =>
    (mongoSettingsStage (mongoFactory fs details s.uuidRepresentation customizers)).andThen
      fun clients => ⟨.ok (some clients), [], []⟩

/-- Assembles everything that is configured. -/
def assemble (fs : FileSystem) (s : AppSettings) (overrides : Overrides ε) :
    Stage ε Infrastructure :=
  (registryStage s.tls overrides.registry).andThen fun registry =>
  (kafkaStage fs registry overrides.kafka s.kafka).andThen fun kafka =>
  (mongoStage fs registry overrides.mongoDetails overrides.mongoCustomizers s.mongo).andThen
    fun mongo => ⟨.ok { settings := s, registry, kafka, mongo }, [], []⟩

/-- The options of a MongoDB client, if MongoDB is configured. -/
def mongoOptions (i : Infrastructure) : Logged (Option Mongo.DriverOptions) :=
  match i.mongo with
  | none => .silent (.ok none)
  | some clients =>
    let options := clients.factory.options
    { options with answer := options.answer.map some }

end Infrastructure

end ClientWiring.Startup
