import ClientWiring.Duration
import ClientWiring.Redaction
import ClientWiring.Tree.Section

/-!
# Settings of the Kafka clients

The section `kafka`.  Producer, consumer, admin and streams are roles: each has settings of its own
and may name other servers, another client id, another security protocol, another TLS bundle and
further client entries than the ones common to all.
-/

namespace ClientWiring

/-- What a role may set in place of the common settings. -/
structure RoleSettings where
  bootstrapServers : Option (List String)
  clientId : Option String
  /-- The name of a TLS bundle. -/
  bundle : Option String
  securityProtocol : Option String
  /-- Entries handed to the client as they are. -/
  properties : SortedMap String
deriving DecidableEq

/-- Settings of the producer. -/
structure ProducerSettings where
  role : RoleSettings
  acks : Option String
  batchSize : Option UInt64
  /-- The room for messages waiting to be sent, in kilobytes. -/
  bufferMemoryKb : Option UInt64
  compressionType : Option String
  retries : Option UInt32
  lingerMs : Option UInt64
  /-- When there is one, producers are transactional. -/
  transactionIdPrefix : Option String
deriving DecidableEq

/-- Settings of the consumer. -/
structure ConsumerSettings where
  role : RoleSettings
  groupId : Option String
  autoCommitIntervalMs : Option UInt64
  autoOffsetReset : Option String
  enableAutoCommit : Option Bool
  fetchMaxWaitMs : Option UInt64
  fetchMinSize : Option UInt64
  heartbeatIntervalMs : Option UInt64
  isolationLevel : Option String
  maxPollIntervalMs : Option UInt64
deriving DecidableEq

/-- Settings of the admin client. -/
structure AdminSettings where
  role : RoleSettings
  closeTimeoutSecs : Option UInt64
  operationTimeoutSecs : Option UInt64
  /-- Whether start-up fails when no broker can be reached. -/
  failFast : Bool
  modifyTopicConfigs : Bool
  autoCreate : Bool
deriving DecidableEq

/-- Settings of the streams role. -/
structure StreamsSettings where
  role : RoleSettings
  applicationId : Option String
deriving DecidableEq

/-- Settings of the login module. -/
structure JaasSettings where
  enabled : Bool
  loginModule : Option String
  controlFlag : Option String
  options : SortedMap String
deriving DecidableEq

/-- Settings of the sending template. -/
structure TemplateSettings where
  defaultTopic : Option String
  transactionIdPrefix : Option String
  observationEnabled : Option Bool
deriving DecidableEq

/-- Settings of the pauses between attempts. -/
structure BackOffSettings where
  delayMs : Option UInt64
  maxDelayMs : Option UInt64
  multiplier : Option Double
  random : Option Bool
deriving DecidableEq

/-- Settings of the retry topics. -/
structure RetrySettings where
  enabled : Bool
  /-- The number of attempts in all, the first included. -/
  attempts : UInt32
  backOff : BackOffSettings
deriving DecidableEq

/-- The section `kafka`. -/
structure KafkaSettings where
  bootstrapServers : List String
  clientId : Option String
  /-- Entries handed to every client as they are. -/
  properties : SortedMap String
  /-- The name of a TLS bundle. -/
  bundle : Option String
  securityProtocol : Option String
  producer : ProducerSettings
  consumer : ConsumerSettings
  admin : AdminSettings
  streams : StreamsSettings
  jaas : JaasSettings
  template : TemplateSettings
  retry : RetrySettings
deriving DecidableEq

/-! ## Defaults -/

/-- A role that follows the common settings. -/
def RoleSettings.default : RoleSettings :=
  { bootstrapServers := none, clientId := none, bundle := none, securityProtocol := none,
    properties := .empty }

/-- A producer as the client library makes it. -/
def ProducerSettings.default : ProducerSettings :=
  { role := .default, acks := none, batchSize := none, bufferMemoryKb := none,
    compressionType := none, retries := none, lingerMs := none, transactionIdPrefix := none }

/-- A consumer as the client library makes it. -/
def ConsumerSettings.default : ConsumerSettings :=
  { role := .default, groupId := none, autoCommitIntervalMs := none, autoOffsetReset := none,
    enableAutoCommit := none, fetchMaxWaitMs := none, fetchMinSize := none,
    heartbeatIntervalMs := none, isolationLevel := none, maxPollIntervalMs := none }

/-- An admin client that creates topics. -/
def AdminSettings.default : AdminSettings :=
  { role := .default, closeTimeoutSecs := none, operationTimeoutSecs := none, failFast := false,
    modifyTopicConfigs := false, autoCreate := true }

/-- Streams without an application. -/
def StreamsSettings.default : StreamsSettings := ⟨.default, none⟩

/-- No login module. -/
def JaasSettings.default : JaasSettings := ⟨false, none, none, .empty⟩

/-- A template without a default topic. -/
def TemplateSettings.default : TemplateSettings := ⟨none, none, none⟩

/-- A pause of one second. -/
def BackOffSettings.default : BackOffSettings := ⟨some 1000, none, none, none⟩

/-- Three attempts, if switched on. -/
def RetrySettings.default : RetrySettings := ⟨false, 3, .default⟩

/-- The server that is used when none is given. -/
def KafkaSettings.defaultServers : List String := ["localhost:9092"]

/-- Clients of the server on this machine. -/
def KafkaSettings.default : KafkaSettings :=
  { bootstrapServers := defaultServers, clientId := none, properties := .empty, bundle := none,
    securityProtocol := none, producer := .default, consumer := .default, admin := .default,
    streams := .default, jaas := .default, template := .default, retry := .default }

/-! ## Readings -/

open ClientWiring.Tree

/-- The reading of a section that names a TLS bundle. -/
def bundleNameOfTree? (surplus : Surplus) (t : Tree) : Option (Option String) := do
  optional (← sectionOf? surplus ["bundle"] t) "bundle" text?

/-- The reading of a section that names a security protocol. -/
def protocolOfTree? (surplus : Surplus) (t : Tree) : Option (Option String) := do
  optional (← sectionOf? surplus ["protocol"] t) "protocol" text?

/-- The reading of what a role may set. -/
def RoleSettings.ofFields? (surplus : Surplus) (fields : Fields) : Option RoleSettings := do
  let bootstrapServers ← optional fields "bootstrap_servers" texts?
  let clientId ← optional fields "client_id" text?
  let bundle ← withDefault fields "ssl" (bundleNameOfTree? surplus) none
  let securityProtocol ← withDefault fields "security" (protocolOfTree? surplus) none
  let properties ← withDefault fields "properties" textMap? .empty
  some { bootstrapServers, clientId, bundle, securityProtocol, properties }

/-- The fields of the producer in the order of a row. -/
def ProducerSettings.fieldNames : List String :=
  ["bootstrap_servers", "client_id", "ssl", "security", "acks", "batch_size", "buffer_memory_kb",
   "compression_type", "retries", "linger_ms", "transaction_id_prefix", "properties"]

/-- The reading of the producer. -/
def ProducerSettings.ofTree? (surplus : Surplus) (t : Tree) : Option ProducerSettings := do
  let fields ← sectionOf? surplus ProducerSettings.fieldNames t
  let role ← RoleSettings.ofFields? surplus fields
  let acks ← optional fields "acks" text?
  let batchSize ← optional fields "batch_size" uint64?
  let bufferMemoryKb ← optional fields "buffer_memory_kb" uint64?
  let compressionType ← optional fields "compression_type" text?
  let retries ← optional fields "retries" uint32?
  let lingerMs ← optional fields "linger_ms" uint64?
  let transactionIdPrefix ← optional fields "transaction_id_prefix" text?
  some { role, acks, batchSize, bufferMemoryKb, compressionType, retries, lingerMs,
         transactionIdPrefix }

/-- The fields of the consumer in the order of a row. -/
def ConsumerSettings.fieldNames : List String :=
  ["bootstrap_servers", "client_id", "ssl", "security", "group_id", "auto_commit_interval_ms",
   "auto_offset_reset", "enable_auto_commit", "fetch_max_wait_ms", "fetch_min_size",
   "heartbeat_interval_ms", "isolation_level", "max_poll_interval_ms", "properties"]

/-- The reading of the consumer. -/
def ConsumerSettings.ofTree? (surplus : Surplus) (t : Tree) : Option ConsumerSettings := do
  let fields ← sectionOf? surplus ConsumerSettings.fieldNames t
  let role ← RoleSettings.ofFields? surplus fields
  let groupId ← optional fields "group_id" text?
  let autoCommitIntervalMs ← optional fields "auto_commit_interval_ms" uint64?
  let autoOffsetReset ← optional fields "auto_offset_reset" text?
  let enableAutoCommit ← optional fields "enable_auto_commit" bool?
  let fetchMaxWaitMs ← optional fields "fetch_max_wait_ms" uint64?
  let fetchMinSize ← optional fields "fetch_min_size" uint64?
  let heartbeatIntervalMs ← optional fields "heartbeat_interval_ms" uint64?
  let isolationLevel ← optional fields "isolation_level" text?
  let maxPollIntervalMs ← optional fields "max_poll_interval_ms" uint64?
  some { role, groupId, autoCommitIntervalMs, autoOffsetReset, enableAutoCommit, fetchMaxWaitMs,
         fetchMinSize, heartbeatIntervalMs, isolationLevel, maxPollIntervalMs }

/-- The fields of the admin client in the order of a row. -/
def AdminSettings.fieldNames : List String :=
  ["bootstrap_servers", "client_id", "ssl", "security", "close_timeout_secs",
   "operation_timeout_secs", "fail_fast", "modify_topic_configs", "auto_create", "properties"]

/-- The reading of the admin client. -/
def AdminSettings.ofTree? (surplus : Surplus) (t : Tree) : Option AdminSettings := do
  let fields ← sectionOf? surplus AdminSettings.fieldNames t
  let role ← RoleSettings.ofFields? surplus fields
  let closeTimeoutSecs ← optional fields "close_timeout_secs" uint64?
  let operationTimeoutSecs ← optional fields "operation_timeout_secs" uint64?
  let failFast ← withDefault fields "fail_fast" bool? false
  let modifyTopicConfigs ← withDefault fields "modify_topic_configs" bool? false
  let autoCreate ← withDefault fields "auto_create" bool? true
  some { role, closeTimeoutSecs, operationTimeoutSecs, failFast, modifyTopicConfigs, autoCreate }

/-- The fields of streams in the order of a row. -/
def StreamsSettings.fieldNames : List String :=
  ["bootstrap_servers", "client_id", "application_id", "ssl", "security", "properties"]

/-- The reading of streams. -/
def StreamsSettings.ofTree? (surplus : Surplus) (t : Tree) : Option StreamsSettings := do
  let fields ← sectionOf? surplus StreamsSettings.fieldNames t
  let role ← RoleSettings.ofFields? surplus fields
  let applicationId ← optional fields "application_id" text?
  some { role, applicationId }

/-- The fields of the login module in the order of a row. -/
def JaasSettings.fieldNames : List String := ["enabled", "login_module", "control_flag", "options"]

/-- The reading of the login module. -/
def JaasSettings.ofTree? (surplus : Surplus) (t : Tree) : Option JaasSettings := do
  let fields ← sectionOf? surplus JaasSettings.fieldNames t
  let enabled ← withDefault fields "enabled" bool? false
  let loginModule ← optional fields "login_module" text?
  let controlFlag ← optional fields "control_flag" text?
  let options ← withDefault fields "options" textMap? .empty
  some { enabled, loginModule, controlFlag, options }

/-- The fields of the template in the order of a row. -/
def TemplateSettings.fieldNames : List String :=
  ["default_topic", "transaction_id_prefix", "observation_enabled"]

/-- The reading of the template. -/
def TemplateSettings.ofTree? (surplus : Surplus) (t : Tree) : Option TemplateSettings := do
  let fields ← sectionOf? surplus TemplateSettings.fieldNames t
  let defaultTopic ← optional fields "default_topic" text?
  let transactionIdPrefix ← optional fields "transaction_id_prefix" text?
  let observationEnabled ← optional fields "observation_enabled" bool?
  some { defaultTopic, transactionIdPrefix, observationEnabled }

/-- The fields of the pauses between attempts in the order of a row. -/
def BackOffSettings.fieldNames : List String := ["delay_ms", "max_delay_ms", "multiplier", "random"]

/-- The reading of the pauses between attempts. -/
def BackOffSettings.ofTree? (surplus : Surplus) (t : Tree) : Option BackOffSettings := do
  let fields ← sectionOf? surplus BackOffSettings.fieldNames t
  let delayMs ← withDefault fields "delay_ms" (nullable? uint64?) (some 1000)
  let maxDelayMs ← optional fields "max_delay_ms" uint64?
  let multiplier ← optional fields "multiplier" double?
  let random ← optional fields "random" bool?
  some { delayMs, maxDelayMs, multiplier, random }

/-- The fields of the section `kafka.retry.topic` in the order of a row. -/
def RetrySettings.topicFieldNames : List String := ["enabled", "attempts", "backoff"]

/-- The reading of the section `kafka.retry.topic`. -/
def RetrySettings.ofTopicTree? (surplus : Surplus) (t : Tree) : Option RetrySettings := do
  let fields ← sectionOf? surplus RetrySettings.topicFieldNames t
  let enabled ← withDefault fields "enabled" bool? false
  let attempts ← withDefault fields "attempts" uint32? 3
  let backOff ← withDefault fields "backoff" (BackOffSettings.ofTree? surplus) .default
  some { enabled, attempts, backOff }

/-- The reading of the section `kafka.retry`. -/
def RetrySettings.ofTree? (surplus : Surplus) (t : Tree) : Option RetrySettings := do
  let fields ← sectionOf? surplus ["topic"] t
  withDefault fields "topic" (RetrySettings.ofTopicTree? surplus) .default

/-- The fields of the section `kafka` in the order of a row. -/
def KafkaSettings.fieldNames : List String :=
  ["bootstrap_servers", "client_id", "properties", "ssl", "security", "producer", "consumer",
   "admin", "streams", "jaas", "template", "retry"]

/-- The reading of the section `kafka`. -/
def KafkaSettings.ofTree? (surplus : Surplus) (t : Tree) : Option KafkaSettings := do
  let fields ← sectionOf? surplus KafkaSettings.fieldNames t
  let bootstrapServers ← withDefault fields "bootstrap_servers" texts? defaultServers
  let clientId ← optional fields "client_id" text?
  let properties ← withDefault fields "properties" textMap? .empty
  let bundle ← withDefault fields "ssl" (bundleNameOfTree? surplus) none
  let securityProtocol ← withDefault fields "security" (protocolOfTree? surplus) none
  let producer ← withDefault fields "producer" (ProducerSettings.ofTree? surplus) .default
  let consumer ← withDefault fields "consumer" (ConsumerSettings.ofTree? surplus) .default
  let admin ← withDefault fields "admin" (AdminSettings.ofTree? surplus) .default
  let streams ← withDefault fields "streams" (StreamsSettings.ofTree? surplus) .default
  let jaas ← withDefault fields "jaas" (JaasSettings.ofTree? surplus) .default
  let template ← withDefault fields "template" (TemplateSettings.ofTree? surplus) .default
  let retry ← withDefault fields "retry" (RetrySettings.ofTree? surplus) .default
  some { bootstrapServers, clientId, properties, bundle, securityProtocol, producer, consumer,
         admin, streams, jaas, template, retry }

/-! ## Texts for people -/

open Inspect

/-- The section that names a TLS bundle. -/
def inspectBundleName (bundle : Option String) : String :=
  record "KafkaSslProperties" [field "bundle" (inspect bundle)]

/-- The section that names a security protocol. -/
def inspectProtocol (protocol : Option String) : String :=
  record "KafkaSecurityProperties" [field "protocol" (inspect protocol)]

/-- The fields of a role before the ones of its own. -/
def RoleSettings.leadingFields (s : RoleSettings) : List String :=
  [field "bootstrap_servers" (inspect s.bootstrapServers), field "client_id" (inspect s.clientId)]

/-- The fields of a role for TLS bundle and security protocol. -/
def RoleSettings.securityFields (s : RoleSettings) : List String :=
  [field "ssl" (inspectBundleName s.bundle),
   field "security" (inspectProtocol s.securityProtocol)]

/-- The field of a role after the ones of its own. -/
def RoleSettings.trailingFields (s : RoleSettings) : List String :=
  [field "properties" (inspect s.properties)]

instance : Inspect ProducerSettings := ⟨fun s => record "ProducerProperties"
  (s.role.leadingFields ++ s.role.securityFields ++
    [field "acks" (inspect s.acks), field "batch_size" (inspect s.batchSize),
     field "buffer_memory_kb" (inspect s.bufferMemoryKb),
     field "compression_type" (inspect s.compressionType), field "retries" (inspect s.retries),
     field "linger_ms" (inspect s.lingerMs),
     field "transaction_id_prefix" (inspect s.transactionIdPrefix)] ++ s.role.trailingFields)⟩

instance : Inspect ConsumerSettings := ⟨fun s => record "ConsumerProperties"
  (s.role.leadingFields ++ s.role.securityFields ++
    [field "group_id" (inspect s.groupId),
     field "auto_commit_interval_ms" (inspect s.autoCommitIntervalMs),
     field "auto_offset_reset" (inspect s.autoOffsetReset),
     field "enable_auto_commit" (inspect s.enableAutoCommit),
     field "fetch_max_wait_ms" (inspect s.fetchMaxWaitMs),
     field "fetch_min_size" (inspect s.fetchMinSize),
     field "heartbeat_interval_ms" (inspect s.heartbeatIntervalMs),
     field "isolation_level" (inspect s.isolationLevel),
     field "max_poll_interval_ms" (inspect s.maxPollIntervalMs)] ++ s.role.trailingFields)⟩

instance : Inspect AdminSettings := ⟨fun s => record "AdminProperties"
  (s.role.leadingFields ++ s.role.securityFields ++
    [field "close_timeout_secs" (inspect s.closeTimeoutSecs),
     field "operation_timeout_secs" (inspect s.operationTimeoutSecs),
     field "fail_fast" (inspect s.failFast),
     field "modify_topic_configs" (inspect s.modifyTopicConfigs),
     field "auto_create" (inspect s.autoCreate)] ++ s.role.trailingFields)⟩

instance : Inspect StreamsSettings := ⟨fun s => record "StreamsProperties"
  (s.role.leadingFields ++ [field "application_id" (inspect s.applicationId)] ++
    s.role.securityFields ++ s.role.trailingFields)⟩

instance : Inspect JaasSettings := ⟨fun s => record "JaasProperties"
  [field "enabled" (inspect s.enabled), field "login_module" (inspect s.loginModule),
   field "control_flag" (inspect s.controlFlag),
   field "options" (Redaction.inspectEntries s.options)]⟩

instance : Inspect TemplateSettings := ⟨fun s => record "TemplateProperties"
  [field "default_topic" (inspect s.defaultTopic),
   field "transaction_id_prefix" (inspect s.transactionIdPrefix),
   field "observation_enabled" (inspect s.observationEnabled)]⟩

instance : Inspect BackOffSettings := ⟨fun s => record "BackoffProperties"
  [field "delay_ms" (inspect s.delayMs), field "max_delay_ms" (inspect s.maxDelayMs),
   field "multiplier" (inspect s.multiplier), field "random" (inspect s.random)]⟩

instance : Inspect RetrySettings := ⟨fun s => record "RetryProperties"
  [field "topic" (record "RetryTopicProperties"
    [field "enabled" (inspect s.enabled), field "attempts" (inspect s.attempts),
     field "backoff" (inspect s.backOff)])]⟩

instance : Inspect KafkaSettings := ⟨fun s => record "KafkaProperties"
  [field "bootstrap_servers" (inspect s.bootstrapServers), field "client_id" (inspect s.clientId),
   field "properties" (inspect s.properties), field "ssl" (inspectBundleName s.bundle),
   field "security" (inspectProtocol s.securityProtocol),
   field "producer" (inspect s.producer), field "consumer" (inspect s.consumer),
   field "admin" (inspect s.admin), field "streams" (inspect s.streams),
   field "jaas" (inspect s.jaas), field "template" (inspect s.template),
   field "retry" (inspect s.retry)]⟩

end ClientWiring
