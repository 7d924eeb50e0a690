import ClientWiring.Kafka.Endpoint

/-!
# Entries of a role

Settings become entries in layers, of which a later one wins: the common typed settings, the common
entries given as they are, the typed settings of the role, and the entries of the role given as they
are.
-/

namespace ClientWiring.Kafka

/-- A truth value in an entry. -/
def entryOfBool (b : Bool) : String := if b then "true" else "false"

/-- A number of 32 bits in an entry. -/
def entryOfUInt32 (n : UInt32) : String := n.toNat.repr

/-- A number of 64 bits in an entry. -/
def entryOfUInt64 (n : UInt64) : String := n.toNat.repr

/-- The typed settings of the producer alone. -/
def producerTuning (s : ProducerSettings) : List (String × Option String) :=
  [("acks", s.acks),
   ("batch.size", s.batchSize.map entryOfUInt64),
   ("queue.buffering.max.kbytes", s.bufferMemoryKb.map entryOfUInt64),
   ("compression.type", s.compressionType),
   ("retries", s.retries.map entryOfUInt32),
   ("linger.ms", s.lingerMs.map entryOfUInt64)]

/-- The typed settings of the consumer alone. -/
def consumerTuning (s : ConsumerSettings) : List (String × Option String) :=
  [("group.id", s.groupId),
   ("auto.commit.interval.ms", s.autoCommitIntervalMs.map entryOfUInt64),
   ("auto.offset.reset", s.autoOffsetReset),
   ("enable.auto.commit", s.enableAutoCommit.map entryOfBool),
   ("fetch.wait.max.ms", s.fetchMaxWaitMs.map entryOfUInt64),
   ("fetch.min.bytes", s.fetchMinSize.map entryOfUInt64),
   ("heartbeat.interval.ms", s.heartbeatIntervalMs.map entryOfUInt64),
   ("isolation.level", s.isolationLevel),
   ("max.poll.interval.ms", s.maxPollIntervalMs.map entryOfUInt64)]

/-- The typed settings that only one role has.  The timeouts and switches of the admin client are no
entries, and streams have none. -/
def Role.tuning (s : KafkaSettings) : Role → List (String × Option String)
  | .producer => producerTuning s.producer
  | .consumer => consumerTuning s.consumer
  | .admin | .streams => []

/-- The entries that all roles start from. -/
def commonClient (s : KafkaSettings) : Client :=
  ((((Client.empty.set Client.serversKey (Client.joinServers s.bootstrapServers)).setSome
    Client.clientIdKey s.clientId).setProtocol s.securityProtocol).setAll s.properties)

/-- Sets those of the entries that have a value. -/
def Client.overlaid (c : Client) (values : List (String × Option String)) : Client :=
  { c with entries := Client.overlay c.entries values }

/-- The entries of a role. -/
def Role.client (s : KafkaSettings) (role : Role) : Client :=
  let own := role.settings s
  let servers := own.bootstrapServers.map Client.joinServers
  let connecting := ((commonClient s).setSome Client.serversKey servers).setSome
    Client.clientIdKey own.clientId
  ((connecting.setProtocol own.securityProtocol).overlaid (role.tuning s)).setAll own.properties

end ClientWiring.Kafka
