import ClientWiring.Proofs.Kafka.Suppression
import ClientWiring.Startup.Infrastructure

/-!
# Start-up beside supplied components

What the caller supplies takes the place of settings, and the two are never merged: start-up only
sees the settings that are in force beside what is supplied.

    (assemble fs (s.inForce overrides) overrides).map (·.withSettings s) =
      assemble fs s overrides                                                 (assemble_inForce)

So of two configurations that differ only in suppressed settings, start-up makes the same of both:
the same error or the same clients, the same counters, the same notes
                                                                     (same_start_of_inForce_eq).
-/

namespace ClientWiring

/-- The section `mongo`; supplied details leave the representation of UUIDs in force. -/
def MongoSettings.inForce (details : Bool) (s : MongoSettings) : MongoSettings :=
  if details then { MongoSettings.default with uuidRepresentation := s.uuidRepresentation } else s

/-- The settings that are in force beside what is supplied. -/
def AppSettings.inForce {ε : Type} (overrides : Startup.Overrides ε) (s : AppSettings) :
    AppSettings :=
  { s with
    tls := if overrides.registry.isSome then .default else s.tls
    kafka := s.kafka.map (KafkaSettings.inForce overrides.kafka)
    mongo := s.mongo.map (MongoSettings.inForce overrides.mongoDetails.isSome) }

namespace Startup

variable {ε α β : Type}

/-- A stage with its result changed. -/
def Stage.map (f : α → β) (s : Stage ε α) : Stage ε β := ⟨s.answer.map f, s.counted, s.notes⟩

theorem Stage.map_andThen {γ : Type} (f : β → γ) (s : Stage ε α) (next : α → Stage ε β) :
    (s.andThen next).map f = s.andThen fun a => (next a).map f := by
  unfold andThen
  cases s.answer <;> rfl

namespace Infrastructure

/-- The same clients with other settings beside them. -/
def withSettings (s : AppSettings) (i : Infrastructure) : Infrastructure := { i with settings := s }

/-! ## Stages -/

theorem registryStage_inForce (s : AppSettings) (overrides : Overrides ε) :
    (registryStage (s.inForce overrides).tls overrides.registry : Stage ε Tls.Registry) =
      registryStage s.tls overrides.registry := by
  show registryStage (if overrides.registry.isSome then .default else s.tls) _ = _
  cases overrides.registry <;> rfl

theorem kafkaStage_inForce (fs : FileSystem) (registry : Tls.Registry) (s : AppSettings)
    (overrides : Overrides ε) :
    kafkaStage fs registry overrides.kafka (s.inForce overrides).kafka =
      kafkaStage fs registry overrides.kafka s.kafka := by
  show kafkaStage fs registry overrides.kafka (s.kafka.map _) = _
  cases s.kafka with
  | none => rfl
  | some k =>
    show kafkaStage fs registry overrides.kafka (some (k.inForce overrides.kafka)) = _
    simp only [kafkaStage, Kafka.assemble_inForce]

theorem uuidRepresentation_inForce (details : Bool) (s : MongoSettings) :
    (s.inForce details).uuidRepresentation = s.uuidRepresentation := by
  cases details <;> rfl

theorem mongoDetailsStage_inForce (registry : Tls.Registry) (s : MongoSettings)
    (details : Option Mongo.Details) :
    (mongoDetailsStage registry (s.inForce details.isSome) details : Stage ε Mongo.Details) =
      mongoDetailsStage registry s details := by
  cases details <;> rfl

theorem mongoStage_inForce (fs : FileSystem) (registry : Tls.Registry) (s : AppSettings)
    (overrides : Overrides ε) :
    (mongoStage fs registry overrides.mongoDetails overrides.mongoCustomizers
        (s.inForce overrides).mongo : Stage ε (Option MongoClients)) =
      mongoStage fs registry overrides.mongoDetails overrides.mongoCustomizers s.mongo := by
  show mongoStage fs registry overrides.mongoDetails overrides.mongoCustomizers (s.mongo.map _) = _
  cases s.mongo with
  | none => rfl
  | some m =>
    show mongoStage fs registry overrides.mongoDetails overrides.mongoCustomizers
      (some (m.inForce overrides.mongoDetails.isSome)) = _
    simp only [mongoStage, mongoDetailsStage_inForce, uuidRepresentation_inForce]

/-! ## Whole start-ups -/

/-- Start-up only sees the settings that are in force, the copy apart that it keeps. -/
theorem assemble_inForce (fs : FileSystem) (s : AppSettings) (overrides : Overrides ε) :
    (assemble fs (s.inForce overrides) overrides).map (withSettings s) =
      assemble fs s overrides := by
  unfold assemble
  simp only [registryStage_inForce, kafkaStage_inForce, mongoStage_inForce, Stage.map_andThen]
  rfl

/-- Of configurations that differ only in suppressed settings start-up makes the same. -/
theorem same_start_of_inForce_eq (fs : FileSystem) (overrides : Overrides ε) (s t : AppSettings)
    (h : s.inForce overrides = t.inForce overrides) :
    (assemble fs s overrides).counted = (assemble fs t overrides).counted ∧
    (assemble fs s overrides).notes = (assemble fs t overrides).notes ∧
    ((∃ e, (assemble fs s overrides).answer = .error e ∧
        (assemble fs t overrides).answer = .error e) ∨
      ∃ i j, (assemble fs s overrides).answer = .ok i ∧
        (assemble fs t overrides).answer = .ok j ∧
        i.registry = j.registry ∧ i.kafka = j.kafka ∧ i.mongo = j.mongo) := by
  -- both are the start-up of the settings in force, each with a copy of its own settings
  rw [← assemble_inForce fs s, ← assemble_inForce fs t, h]
  refine ⟨rfl, rfl, ?_⟩
  unfold Stage.map
  cases (assemble fs (t.inForce overrides) overrides).answer with
  | error e => exact .inl ⟨e, rfl, rfl⟩
  | ok i => exact .inr ⟨i.withSettings s, i.withSettings t, rfl, rfl, rfl, rfl, rfl⟩

/-- Everything but the transaction manager is supplied. -/
def supplying : Overrides Unit :=
  let factory := Kafka.ProducerFactory.new (.supplied 1) .empty
  let template := Kafka.Template.new (.supplied 2) factory
  { registry := some .empty
    kafka := { Kafka.Supplied.nothing with
      endpoints := some (.uniform ⟨["a:1"], none, none⟩)
      login := some ⟨"Module", .required, .empty⟩
      producerFactory := some factory
      consumerFactory := some ⟨.empty⟩
      templates := [template]
      admin := some (.new .empty)
      retryTopics := some (.new template) }
    mongoDetails := some ⟨⟨⟨"mongodb://h"⟩, false, none, ["h"], none⟩, none⟩
    mongoCustomizers := [] }

/-- Settings without anything that could be suppressed. -/
def plainSettings : AppSettings :=
  { appName := "svc", appEnv := AppSettings.defaultEnv, telemetry := .default, tls := .default,
    kafka := some .default, mongo := some .default }

/-- Settings none of which would get through start-up: a key without its certificate, a bundle that
nobody registers, a flag and a connection string that cannot be read. -/
def brokenSettings : AppSettings :=
  { plainSettings with
    tls := ⟨.ofList [("pem", { PemBundleSettings.default with
      keystore := ⟨none, some "key.pem", none⟩ })]⟩
    kafka := some { KafkaSettings.default with
      bootstrapServers := ["b:2"]
      bundle := some "missing"
      producer := { ProducerSettings.default with acks := some "all" }
      jaas := ⟨true, none, some "never", .empty⟩
      retry := { RetrySettings.default with enabled := true } }
    mongo := some { MongoSettings.default with uri := some ⟨"nowhere"⟩ } }

/-- Beside supplied components start-up succeeds with both. -/
theorem same_start_of_inForce_eq_broken :
    brokenSettings.inForce supplying = plainSettings.inForce supplying ∧
    ∃ i j, (assemble (.ofFiles []) brokenSettings supplying).answer = .ok i ∧
      (assemble (.ofFiles []) plainSettings supplying).answer = .ok j ∧
      i.registry = j.registry ∧ i.kafka = j.kafka ∧ i.mongo = j.mongo := by
  have hforce : brokenSettings.inForce supplying = plainSettings.inForce supplying := by decide
  refine ⟨hforce, ?_⟩
  obtain ⟨-, -, ⟨e, hi, -⟩ | hsame⟩ :=
    same_start_of_inForce_eq (.ofFiles []) supplying brokenSettings plainSettings hforce
  · have hsome : (assemble (.ofFiles []) brokenSettings supplying).answer.toOption.isSome = true := by
      decide +kernel
    rw [hi] at hsome
    cases hsome
  · exact hsame

end Infrastructure

end Startup

end ClientWiring
