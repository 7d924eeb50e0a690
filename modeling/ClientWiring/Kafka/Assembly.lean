import ClientWiring.Kafka.ConsumerFactory
import ClientWiring.Kafka.Customizer
import ClientWiring.Kafka.Entries
import ClientWiring.Kafka.Login
import ClientWiring.Kafka.Report
import ClientWiring.Kafka.RetryTopics
import ClientWiring.Kafka.TopicAdmin
import ClientWiring.Kafka.TransactionManager

/-!
# Assembly of the Kafka components

The components are assembled in nine steps.  A component that the caller supplies is taken as it is,
and the settings for it are not looked at; the others are made from the settings and from the
components of the steps before.  Three steps can fail: the endpoints, when a bundle is not known;
the login, when its flag or file is wrong; and the transaction manager, when the producer factory in
use is not transactional.
-/

namespace ClientWiring.Kafka

/-- The components that the caller supplies, and what the caller adds to the others. -/
structure Supplied (ε : Type) where
  endpoints : Option Endpoints
  login : Option Login
  listener : Option Listener
  producerFactory : Option ProducerFactory
  consumerFactory : Option ConsumerFactory
  templates : List Template
  transactionManager : Option TransactionManager
  admin : Option TopicAdmin
  retryTopics : Option RetryTopics
  /-- A single one is used by the template that is made. -/
  converters : List Converter
  producerCustomizers : List (Customizer ProducerFactory ε)
  consumerCustomizers : List (Customizer ConsumerFactory ε)

/-- Nothing is supplied. -/
def Supplied.nothing {ε : Type} : Supplied ε :=
  { endpoints := none, login := none, listener := none, producerFactory := none,
    consumerFactory := none, templates := [], transactionManager := none, admin := none,
    retryTopics := none, converters := [], producerCustomizers := [], consumerCustomizers := [] }

/-- The assembled components. -/
structure Components where
  endpoints : Endpoints
  login : Option Login
  listener : Listener
  producerFactory : ProducerFactory
  consumerFactory : ConsumerFactory
  templates : List Template
  transactionManager : Option TransactionManager
  admin : TopicAdmin
  retryTopics : Option RetryTopics
  report : Report

/-- The template, if there is exactly one. -/
def single? {α : Type} : List α → Option α
  | [x] => some x
  | _ => none

/-- The template of the components, if there is exactly one. -/
def Components.template? (c : Components) : Option Template := single? c.templates

/-- How an assembly ended, and what the customizers noted on the way. -/
structure Assembled (ε : Type) where
  answer : Except AppError Components
  notes : List ε

/-! ## Steps -/

/-- What a step gives: a component, and whether it was created. -/
structure Made (α : Type) where
  component : α
  outcome : Outcome

/-- A component of the caller, or of this library. -/
def Made.orElse {α : Type} (supplied : Option α) (create : Unit → α) : Made α :=
  match supplied with
  | some component => ⟨component, .skipped⟩
  | none => ⟨create (), .created⟩

namespace Assembly

variable {ε : Type}

/-- The first step: where to connect to. -/
def endpoints (registry : Option Tls.Registry) (s : KafkaSettings) :
    Option Endpoints → Except AppError (Made Endpoints)
  | some supplied => .ok ⟨supplied, .skipped⟩
  | none =>
    match Endpoints.ofSettings registry s with
    | .ok made => .ok ⟨made, .created⟩
    | .error e => .error e

/-- The second step: the login, if it is switched on. -/
def login (fs : FileSystem) (s : JaasSettings) :
    Option Login → Except AppError (Made (Option Login))
  | some supplied => .ok ⟨some supplied, .skipped⟩
  | none =>
    if s.enabled then
      match Login.ofSettings fs s with
      | .ok made => .ok ⟨some made, .created⟩
      | .error fault => .error (.io fault)
    else .ok ⟨none, .skipped⟩

/-- The third step: who is told about sends. -/
def listener (supplied : Option Listener) : Made Listener :=
  .orElse supplied fun _ => .default

/-- The configuration of a role: its entries, connected to its endpoint, with the login. -/
def client (s : KafkaSettings) (endpoints : Endpoints) (login : Option Login) (role : Role) :
    Client :=
  let connected := (role.client s).connect (endpoints.of role)
  match login with
  | none => connected
  | some l => l.apply connected

/-- The producer factory before customizers run. -/
def plainProducerFactory (s : KafkaSettings) (endpoints : Endpoints) (login : Option Login) :
    ProducerFactory :=
  { ProducerFactory.new .assembled (client s endpoints login .producer) with
    transactionIdPrefix := Client.nonEmpty s.producer.transactionIdPrefix }

/-- The fourth step: the producer factory, changed by its customizers. -/
def producerFactory (s : KafkaSettings) (endpoints : Endpoints) (login : Option Login)
    (customizers : List (Customizer ProducerFactory ε)) (supplied : Option ProducerFactory) :
    Made (ProducerFactory × List ε) :=
  .orElse (supplied.map (·, [])) fun _ =>
    Customizer.run customizers (plainProducerFactory s endpoints login)

/-- The fifth step: the consumer factory, changed by its customizers. -/
def consumerFactory (s : KafkaSettings) (endpoints : Endpoints) (login : Option Login)
    (customizers : List (Customizer ConsumerFactory ε)) (supplied : Option ConsumerFactory) :
    Made (ConsumerFactory × List ε) :=
  .orElse (supplied.map (·, [])) fun _ =>
    Customizer.run customizers ⟨client s endpoints login .consumer⟩

/-- The template that is made when none is supplied. -/
def defaultTemplate (s : TemplateSettings) (factory : ProducerFactory) (listener : Listener)
    (converters : List Converter) : Template :=
  { Template.new .assembled factory with
    listener
    converter := single? converters
    defaultTopic := s.defaultTopic
    transactionIdPrefix := Client.nonEmpty s.transactionIdPrefix
    observed := s.observationEnabled.getD false }

/-- The sixth step: the templates. -/
def templates (s : TemplateSettings) (factory : ProducerFactory) (listener : Listener)
    (converters : List Converter) (supplied : List Template) : Made (List Template) :=
  if supplied.isEmpty then ⟨[defaultTemplate s factory listener converters], .created⟩
  else ⟨supplied, .skipped⟩

/-- The seventh step: the transaction manager, if the settings have a prefix for ids. -/
def transactionManager (s : ProducerSettings) (factory : ProducerFactory) :
    Option TransactionManager → Except AppError (Made (Option TransactionManager))
  | some supplied => .ok ⟨some supplied, .skipped⟩
  | none =>
    if (Client.nonEmpty s.transactionIdPrefix).isSome then
      match TransactionManager.ofFactory factory with
      | .ok made => .ok ⟨some made, .created⟩
      | .error e => .error e
    else .ok ⟨none, .skipped⟩

/-- The admin with the timeouts and switches of the settings. -/
def adminOfSettings (s : AdminSettings) (client : Client) : TopicAdmin :=
  let new := TopicAdmin.new client
  { client
    closeTimeoutSecs := s.closeTimeoutSecs.getD new.closeTimeoutSecs
    operationTimeoutSecs := s.operationTimeoutSecs.getD new.operationTimeoutSecs
    failFast := s.failFast
    modifyTopicConfigs := s.modifyTopicConfigs
    autoCreate := s.autoCreate }

/-- The eighth step: the admin. -/
def admin (s : KafkaSettings) (endpoints : Endpoints) (login : Option Login)
    (supplied : Option TopicAdmin) : Made TopicAdmin :=
  .orElse supplied fun _ => adminOfSettings s.admin (client s endpoints login .admin)

/-- The ninth step: retry topics, if they are switched on and there is exactly one template. -/
def retryTopics (s : RetrySettings) (templates : List Template) :
    Option RetryTopics → Made (Option RetryTopics)
  | some supplied => ⟨some supplied, .skipped⟩
  | none =>
    match single? templates with
    | some template =>
      if s.enabled then ⟨some (.ofSettings s template), .created⟩ else ⟨none, .skipped⟩
    | none => ⟨none, .skipped⟩

end Assembly

/-- Assembles the components. -/
def assemble {ε : Type} (fs : FileSystem) (registry : Option Tls.Registry) (s : KafkaSettings)
    (supplied : Supplied ε) : Assembled ε :=
  match Assembly.endpoints registry s supplied.endpoints with
  | .error e => ⟨.error e, []⟩
  | .ok endpoints =>
  match Assembly.login fs s.jaas supplied.login with
  | .error e => ⟨.error e, []⟩
  | .ok login =>
    let listener := Assembly.listener supplied.listener
    let producer := Assembly.producerFactory s endpoints.component login.component
      supplied.producerCustomizers supplied.producerFactory
    let consumer := Assembly.consumerFactory s endpoints.component login.component
      supplied.consumerCustomizers supplied.consumerFactory
    let notes := producer.component.2 ++ consumer.component.2
    let templates := Assembly.templates s.template producer.component.1 listener.component
      supplied.converters supplied.templates
    match Assembly.transactionManager s.producer producer.component.1
      supplied.transactionManager with
    | .error e => ⟨.error e, notes⟩
    | .ok manager =>
      let admin := Assembly.admin s endpoints.component login.component supplied.admin
      let retry := Assembly.retryTopics s.retry templates.component supplied.retryTopics
      { answer := .ok
          { endpoints := endpoints.component
            login := login.component
            listener := listener.component
            producerFactory := producer.component.1
            consumerFactory := consumer.component.1
            templates := templates.component
            transactionManager := manager.component
            admin := admin.component
            retryTopics := retry.component
            report :=
              [⟨.connectionDetails, endpoints.outcome⟩, ⟨.jaasInitializer, login.outcome⟩,
               ⟨.producerListener, listener.outcome⟩, ⟨.producerFactory, producer.outcome⟩,
               ⟨.consumerFactory, consumer.outcome⟩, ⟨.template, templates.outcome⟩,
               ⟨.transactionManager, manager.outcome⟩, ⟨.admin, admin.outcome⟩,
               ⟨.retryTopics, retry.outcome⟩] }
        notes }

/-! ## Texts for people -/

open Inspect

instance : Inspect Components := ⟨fun c => openRecord "KafkaComponents"
  [field "templates" (inspect c.templates),
   field "transaction_manager" (inspect c.transactionManager), field "admin" (inspect c.admin),
   field "retry_topic_configuration" (inspect c.retryTopics), field "report" (inspect c.report)]⟩

end ClientWiring.Kafka
