import ClientWiring.Settings.App
import ClientWiring.Tree.Build

/-!
# The settings as they apply

A summary is the tree of all settings with every default in its place, for programs that ask what a
configuration amounts to.  Sections that only group a few settings are left out: `ssl_bundle` and
`security_protocol` stand next to the other settings of a client, and the pauses of `retry` next to
its attempts.  Secrets are exposed, so a summary does not belong in a log; `inspect` is for that.
-/

namespace ClientWiring

open ClientWiring.Tree

/-- A whole number of 64 bits that may be absent. -/
private def ofUInt64? : Option UInt64 → Tree := ofOption fun n => ofNat n.toNat

/-- A choice that may be left open. -/
private def ofBool? : Option Bool → Tree := ofOption .bool

/-- A secret that may be absent, exposed. -/
private def ofSecret? : Option Secret → Tree := ofOption fun s => .text s.exposed

/-- The log. -/
def TelemetrySettings.summary (s : TelemetrySettings) : Tree :=
  .table [("log_level", .text s.logLevel), ("log_format", .text s.logFormat)]

/-! ## TLS -/

/-- A store. -/
def PemStoreSettings.summary (s : PemStoreSettings) : Tree :=
  .table [("certificate", ofText? s.certificate), ("private_key", ofText? s.privateKey),
    ("private_key_password", ofSecret? s.privateKeyPassword)]

/-- A bundle. -/
def PemBundleSettings.summary (s : PemBundleSettings) : Tree :=
  .table [("keystore", s.keystore.summary), ("truststore", s.truststore.summary),
    ("ciphers", ofOption ofTexts s.options.ciphers),
    ("enabled_protocols", ofOption ofTexts s.options.enabledProtocols),
    ("protocol", ofText? s.protocol), ("verify_hostname", .bool s.verifyHostname)]

/-- All bundles, by name. -/
def TlsSettings.summary (s : TlsSettings) : Tree :=
  .table (s.bundles.pairs.map fun p => (p.1, p.2.summary))

/-! ## Kafka -/

/-- What every kind of client may set for itself. -/
def RoleSettings.summaryFields (s : RoleSettings) : Fields :=
  [("bootstrap_servers", ofOption ofTexts s.bootstrapServers), ("client_id", ofText? s.clientId),
   ("ssl_bundle", ofText? s.bundle), ("security_protocol", ofText? s.securityProtocol),
   ("properties", ofTextMap s.properties)]

/-- Producers. -/
def ProducerSettings.summary (s : ProducerSettings) : Tree :=
  .table (s.role.summaryFields ++
    [("acks", ofText? s.acks), ("batch_size", ofUInt64? s.batchSize),
     ("buffer_memory_kb", ofUInt64? s.bufferMemoryKb),
     ("compression_type", ofText? s.compressionType),
     ("retries", ofOption (fun n => ofNat n.toNat) s.retries), ("linger_ms", ofUInt64? s.lingerMs),
     ("transaction_id_prefix", ofText? s.transactionIdPrefix)])

/-- Consumers. -/
def ConsumerSettings.summary (s : ConsumerSettings) : Tree :=
  .table (s.role.summaryFields ++
    [("group_id", ofText? s.groupId),
     ("auto_commit_interval_ms", ofUInt64? s.autoCommitIntervalMs),
     ("auto_offset_reset", ofText? s.autoOffsetReset),
     ("enable_auto_commit", ofBool? s.enableAutoCommit),
     ("fetch_max_wait_ms", ofUInt64? s.fetchMaxWaitMs),
     ("fetch_min_size", ofUInt64? s.fetchMinSize),
     ("heartbeat_interval_ms", ofUInt64? s.heartbeatIntervalMs),
     ("isolation_level", ofText? s.isolationLevel),
     ("max_poll_interval_ms", ofUInt64? s.maxPollIntervalMs)])

/-- The admin client. -/
def AdminSettings.summary (s : AdminSettings) : Tree :=
  .table (s.role.summaryFields ++
    [("close_timeout_secs", ofUInt64? s.closeTimeoutSecs),
     ("operation_timeout_secs", ofUInt64? s.operationTimeoutSecs),
     ("fail_fast", .bool s.failFast), ("modify_topic_configs", .bool s.modifyTopicConfigs),
     ("auto_create", .bool s.autoCreate)])

/-- Streams. -/
def StreamsSettings.summary (s : StreamsSettings) : Tree :=
  .table (s.role.summaryFields ++ [("application_id", ofText? s.applicationId)])

/-- The login. -/
def JaasSettings.summary (s : JaasSettings) : Tree :=
  .table [("enabled", .bool s.enabled), ("login_module", ofText? s.loginModule),
    ("control_flag", ofText? s.controlFlag), ("options", ofTextMap s.options)]

/-- Templates. -/
def TemplateSettings.summary (s : TemplateSettings) : Tree :=
  .table [("default_topic", ofText? s.defaultTopic),
    ("transaction_id_prefix", ofText? s.transactionIdPrefix),
    ("observation_enabled", ofBool? s.observationEnabled)]

/-- Retry topics with their pauses. -/
def RetrySettings.summary (s : RetrySettings) : Tree :=
  .table [("enabled", .bool s.enabled), ("attempts", ofNat s.attempts.toNat),
    ("delay_ms", ofUInt64? s.backOff.delayMs), ("max_delay_ms", ofUInt64? s.backOff.maxDelayMs),
    ("multiplier", ofOption .float s.backOff.multiplier), ("random", ofBool? s.backOff.random)]

/-- The section `kafka`. -/
def KafkaSettings.summary (s : KafkaSettings) : Tree :=
  .table [("bootstrap_servers", ofTexts s.bootstrapServers), ("client_id", ofText? s.clientId),
    ("properties", ofTextMap s.properties), ("ssl_bundle", ofText? s.bundle),
    ("security_protocol", ofText? s.securityProtocol), ("producer", s.producer.summary),
    ("consumer", s.consumer.summary), ("admin", s.admin.summary), ("streams", s.streams.summary),
    ("jaas", s.jaas.summary), ("template", s.template.summary), ("retry", s.retry.summary)]

/-! ## MongoDB -/

/-- The section `mongo`, with the database that a client uses. -/
def MongoSettings.summary (s : MongoSettings) : Tree :=
  .table [("uri", ofSecret? s.uri), ("host", ofText? s.host),
    ("port", ofOption (fun n => ofNat n.toNat) s.port),
    ("additional_hosts", ofTexts s.additionalHosts), ("database", ofText? s.database),
    ("client_database", .text s.clientDatabase),
    ("authentication_database", ofText? s.authenticationDatabase),
    ("username", ofText? s.username), ("password", ofSecret? s.password),
    ("replica_set_name", ofText? s.replicaSetName),
    ("uuid_representation", .text s.uuidRepresentation.name), ("ssl_enabled", .bool s.tls.enabled),
    ("ssl_bundle", ofText? s.tls.bundle)]

/-- The whole configuration. -/
def AppSettings.summary (s : AppSettings) : Tree :=
  .table [("app_name", .text s.appName), ("app_env", .text s.appEnv),
    ("is_production", .bool s.isProduction), ("is_development", .bool s.isDevelopment),
    ("telemetry", s.telemetry.summary), ("ssl", s.tls.summary),
    ("kafka", ofOption KafkaSettings.summary s.kafka),
    ("mongo", ofOption MongoSettings.summary s.mongo)]

end ClientWiring
