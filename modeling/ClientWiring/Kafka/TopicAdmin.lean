import ClientWiring.Duration
import ClientWiring.Kafka.Client

/-!
# Topics at start-up

The admin creates the topics that must be there.  It has nothing to do when creation is switched off
or no topic is given.  When it fails, start-up goes on with a warning unless the admin is told to
fail fast.
-/

namespace ClientWiring.Kafka

/-- A topic that must be there. -/
structure Topic where
  name : String
  partitions : Int
  replication : Int
  config : SortedMap String
deriving DecidableEq

/-- The creator of topics. -/
structure TopicAdmin where
  client : Client
  closeTimeoutSecs : UInt64
  operationTimeoutSecs : UInt64
  failFast : Bool
  modifyTopicConfigs : Bool
  autoCreate : Bool
deriving DecidableEq

namespace TopicAdmin

/-- An admin with the default timeouts and switches. -/
def new (client : Client) : TopicAdmin :=
  { client, closeTimeoutSecs := 10, operationTimeoutSecs := 30, failFast := false,
    modifyTopicConfigs := false, autoCreate := true }

/-- Makes an admin client. -/
def createClient (around : Surroundings) (a : TopicAdmin) : Logged Unit :=
  a.client.make around [] .adminRefused

/-- The warning that the client was not closed in time. -/
def slowClose (a : TopicAdmin) : LogEntry :=
  .warning "Admin client did not close within timeout"
    [("close_timeout_secs", a.closeTimeoutSecs.toNat.repr)]

/-- Asks a broker, which is out of reach, to create topics, and closes the client. -/
def createTopics (around : Surroundings) (a : TopicAdmin) : Logged Unit :=
  let made := a.createClient around
  match made.answer with
  | .error e => ⟨.error e, made.log⟩
  | .ok () =>
    let closing := if around.library.closesWithin a.closeTimeoutSecs then [] else [a.slowClose]
    ⟨.error (.topicsRefused around.library.topicsReason), made.log ++ closing⟩

/-- The warning that the topics are not there. -/
def withoutTopics (e : AppError) : LogEntry :=
  .warning "Could not configure topics, continuing without them" [("error", e.message)]

/-- Creates the topics; tells whether it did. -/
def initializeTopics (around : Surroundings) (a : TopicAdmin) (topics : List Topic) : Logged Bool :=
  if !a.autoCreate || topics.isEmpty then .silent (.ok false)
  else
    let created := a.createTopics around
    match created.answer with
    | .ok () => ⟨.ok true, created.log⟩
    | .error e =>
      if a.failFast then ⟨.error e, created.log⟩
      else ⟨.ok false, created.log ++ [withoutTopics e]⟩

/-! ## Texts for people -/

open Inspect

instance : Inspect TopicAdmin := ⟨fun a => record "KafkaAdmin"
  [field "properties" (inspect a.client), field "close_timeout_secs" (inspect a.closeTimeoutSecs),
   field "operation_timeout_secs" (inspect a.operationTimeoutSecs),
   field "fatal_if_broker_not_available" (inspect a.failFast),
   field "modify_topic_configs" (inspect a.modifyTopicConfigs),
   field "auto_create" (inspect a.autoCreate)]⟩

end TopicAdmin

end ClientWiring.Kafka
