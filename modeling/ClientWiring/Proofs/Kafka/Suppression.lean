import ClientWiring.Proofs.Kafka.RoleEntries

/-!
# Settings that supplied components suppress

A component that the caller supplies is taken as it is, so the settings for it lose their force.
`inForce` puts defaults in their place, and an assembly does not notice:

    assemble fs registry (s.inForce supplied) supplied = assemble fs registry s supplied
                                                                              (assemble_inForce)

Supplied endpoints suppress the servers and the bundles of all roles, and every step asks for those
only through the endpoints: the servers that the settings put into a client are replaced when it is
connected.
-/

namespace ClientWiring

/-! ## What is left of settings -/

/-- What a role may set, without its endpoint when endpoints are supplied and without its entries
when its component is. -/
def RoleSettings.inForce (endpoints component : Bool) (s : RoleSettings) : RoleSettings :=
  { bootstrapServers := if endpoints then none else s.bootstrapServers
    clientId := if component then none else s.clientId
    bundle := if endpoints then none else s.bundle
    securityProtocol := s.securityProtocol
    properties := if component then .empty else s.properties }

/-- Settings of the producer; the prefix for ids also decides about the transaction manager. -/
def ProducerSettings.inForce (endpoints factory : Bool) (s : ProducerSettings) :
    ProducerSettings :=
  { (if factory then { ProducerSettings.default with transactionIdPrefix := s.transactionIdPrefix }
      else s) with
    role := s.role.inForce endpoints factory }

/-- Settings of the consumer. -/
def ConsumerSettings.inForce (endpoints factory : Bool) (s : ConsumerSettings) :
    ConsumerSettings :=
  { (if factory then ConsumerSettings.default else s) with role := s.role.inForce endpoints factory }

/-- Settings of the admin client. -/
def AdminSettings.inForce (endpoints admin : Bool) (s : AdminSettings) : AdminSettings :=
  { (if admin then AdminSettings.default else s) with role := s.role.inForce endpoints admin }

/-- The settings that are in force beside supplied components. -/
def KafkaSettings.inForce {ε : Type} (supplied : Kafka.Supplied ε) (s : KafkaSettings) :
    KafkaSettings :=
  let endpoints := supplied.endpoints.isSome
  { bootstrapServers := if endpoints then KafkaSettings.defaultServers else s.bootstrapServers
    clientId := s.clientId
    properties := s.properties
    bundle := if endpoints then none else s.bundle
    securityProtocol := s.securityProtocol
    producer := s.producer.inForce endpoints supplied.producerFactory.isSome
    consumer := s.consumer.inForce endpoints supplied.consumerFactory.isSome
    admin := s.admin.inForce endpoints supplied.admin.isSome
    streams := if endpoints then .default else s.streams
    jaas := if supplied.login.isSome then .default else s.jaas
    template := if supplied.templates.isEmpty then s.template else .default
    retry := if supplied.retryTopics.isSome then .default else s.retry }

namespace Kafka

/-! ## Clients without the servers of the settings -/

/-- The servers of a client do not matter once it is connected. -/
theorem Client.connect_congr {c d : Client} (htls : c.tls = d.tls)
    (h : ∀ key, key ≠ serversKey → c.get? key = d.get? key) (e : Endpoint) :
    c.connect e = d.connect e := by
  apply Client.ext_get?
  · show e.bundle.or c.tls = e.bundle.or d.tls
    rw [htls]
  · intro key
    rw [get?_connect, get?_connect]
    by_cases hs : key = serversKey
    · rw [if_pos hs, if_pos hs]
    · rw [if_neg hs, if_neg hs, h key hs]

variable {ε : Type}

/-- Whether a component is supplied in place of the settings of a role; no component is made for
streams, whose settings only add to the endpoints. -/
def Role.isSupplied (supplied : Supplied ε) : Role → Bool
  | .producer => supplied.producerFactory.isSome
  | .consumer => supplied.consumerFactory.isSome
  | .admin => supplied.admin.isSome
  | .streams => supplied.endpoints.isSome

namespace Role

/-- The settings of a role without a component keep everything but the endpoint. -/
theorem settings_inForce {supplied : Supplied ε} {role : Role}
    (h : role.isSupplied supplied = false) (s : KafkaSettings) :
    role.settings (s.inForce supplied) =
      (role.settings s).inForce supplied.endpoints.isSome false := by
  cases role with
  | producer =>
    show s.producer.role.inForce _ supplied.producerFactory.isSome = _
    rw [show supplied.producerFactory.isSome = false from h]
    rfl
  | consumer =>
    show s.consumer.role.inForce _ supplied.consumerFactory.isSome = _
    rw [show supplied.consumerFactory.isSome = false from h]
    rfl
  | admin =>
    show s.admin.role.inForce _ supplied.admin.isSome = _
    rw [show supplied.admin.isSome = false from h]
    rfl
  | streams =>
    have hendpoints : supplied.endpoints.isSome = false := h
    show (if supplied.endpoints.isSome then StreamsSettings.default else s.streams).role = _
    rw [hendpoints]
    rfl

theorem typedEntry_inForce {supplied : Supplied ε} {role : Role}
    (h : role.isSupplied supplied = false) (s : KafkaSettings) (key : String) :
    role.typedEntry (s.inForce supplied) key = role.typedEntry s key := by
  cases role with
  | producer =>
    show producerEntry (s.producer.inForce _ supplied.producerFactory.isSome) key = _
    rw [show supplied.producerFactory.isSome = false from h]
    rfl
  | consumer =>
    show consumerEntry (s.consumer.inForce _ supplied.consumerFactory.isSome) key = _
    rw [show supplied.consumerFactory.isSome = false from h]
    rfl
  | admin =>
    show clientIdEntry (s.admin.inForce _ supplied.admin.isSome).role.clientId key = _
    rw [show supplied.admin.isSome = false from h]
    rfl
  | streams =>
    have hendpoints : supplied.endpoints.isSome = false := h
    show clientIdEntry
      (if supplied.endpoints.isSome then StreamsSettings.default else s.streams).role.clientId
      key = _
    rw [hendpoints]
    rfl

/-- A client that is connected does not show which servers were in the settings. -/
theorem connect_client_inForce {supplied : Supplied ε} {role : Role}
    (h : role.isSupplied supplied = false) (s : KafkaSettings) (e : Endpoint) :
    (role.client (s.inForce supplied)).connect e = (role.client s).connect e := by
  -- the servers are the only entry of the settings in which the two clients may differ
  apply Client.connect_congr
  · rw [tls_client, tls_client]
  · intro key hs
    have hcommon : (commonClient (s.inForce supplied)).get? key = (commonClient s).get? key := by
      rw [get?_commonClient, get?_commonClient, if_neg hs, if_neg hs]
      rfl
    rw [get?_client _ role key hs, get?_client _ role key hs, settings_inForce h,
      typedEntry_inForce h, hcommon]
    rfl

end Role

/-! ## The steps of an assembly -/

namespace Assembly

theorem endpoints_inForce (registry : Option Tls.Registry) (s : KafkaSettings)
    (supplied : Supplied ε) :
    endpoints registry (s.inForce supplied) supplied.endpoints =
      endpoints registry s supplied.endpoints := by
  cases h : supplied.endpoints with
  | some e => rfl
  | none =>
    have hsettings : Endpoints.ofSettings registry (s.inForce supplied) =
        Endpoints.ofSettings registry s := by
      unfold KafkaSettings.inForce
      rw [h]
      rfl
    unfold endpoints
    rw [hsettings]

theorem login_inForce (fs : FileSystem) (s : KafkaSettings) (supplied : Supplied ε) :
    login fs (s.inForce supplied).jaas supplied.login = login fs s.jaas supplied.login := by
  cases h : supplied.login with
  | some l => rfl
  | none =>
    have hjaas : (s.inForce supplied).jaas = s.jaas := by
      show (if supplied.login.isSome then JaasSettings.default else s.jaas) = _
      rw [h]
      rfl
    rw [hjaas]

theorem client_inForce {supplied : Supplied ε} {role : Role}
    (h : role.isSupplied supplied = false) (s : KafkaSettings) (e : Endpoints)
    (l : Option Login) : client (s.inForce supplied) e l role = client s e l role := by
  unfold client
  rw [Role.connect_client_inForce h]

theorem transactionIdPrefix_inForce (s : KafkaSettings) (supplied : Supplied ε) :
    (s.inForce supplied).producer.transactionIdPrefix = s.producer.transactionIdPrefix := by
  show (if supplied.producerFactory.isSome then _ else _ : ProducerSettings).transactionIdPrefix = _
  cases supplied.producerFactory <;> rfl

theorem producerFactory_inForce (s : KafkaSettings) (supplied : Supplied ε) (e : Endpoints)
    (l : Option Login) :
    producerFactory (s.inForce supplied) e l supplied.producerCustomizers
        supplied.producerFactory =
      producerFactory s e l supplied.producerCustomizers supplied.producerFactory := by
  cases h : supplied.producerFactory with
  | some f => rfl
  | none =>
    have hsupplied : Role.producer.isSupplied supplied = false := congrArg Option.isSome h
    have hplain : plainProducerFactory (s.inForce supplied) e l = plainProducerFactory s e l := by
      unfold plainProducerFactory
      rw [client_inForce hsupplied, transactionIdPrefix_inForce]
    unfold producerFactory
    rw [hplain]

theorem consumerFactory_inForce (s : KafkaSettings) (supplied : Supplied ε) (e : Endpoints)
    (l : Option Login) :
    consumerFactory (s.inForce supplied) e l supplied.consumerCustomizers
        supplied.consumerFactory =
      consumerFactory s e l supplied.consumerCustomizers supplied.consumerFactory := by
  cases h : supplied.consumerFactory with
  | some f => rfl
  | none =>
    have hsupplied : Role.consumer.isSupplied supplied = false := congrArg Option.isSome h
    unfold consumerFactory
    rw [client_inForce hsupplied]

theorem templates_inForce (s : KafkaSettings) (supplied : Supplied ε) (factory : ProducerFactory)
    (listener : Listener) :
    templates (s.inForce supplied).template factory listener supplied.converters
        supplied.templates =
      templates s.template factory listener supplied.converters supplied.templates := by
  show templates (if supplied.templates.isEmpty then s.template else .default) _ _ _ _ = _
  unfold templates
  cases supplied.templates.isEmpty <;> rfl

theorem transactionManager_inForce (s : KafkaSettings) (supplied : Supplied ε)
    (factory : ProducerFactory) (manager : Option TransactionManager) :
    transactionManager (s.inForce supplied).producer factory manager =
      transactionManager s.producer factory manager := by
  unfold transactionManager
  rw [transactionIdPrefix_inForce]

theorem admin_inForce (s : KafkaSettings) (supplied : Supplied ε) (e : Endpoints)
    (l : Option Login) :
    admin (s.inForce supplied) e l supplied.admin = admin s e l supplied.admin := by
  cases h : supplied.admin with
  | some a => rfl
  | none =>
    have hsupplied : Role.admin.isSupplied supplied = false := congrArg Option.isSome h
    have hadmin : (s.inForce supplied).admin = s.admin.inForce supplied.endpoints.isSome false := by
      show s.admin.inForce _ supplied.admin.isSome = _
      rw [h]
      rfl
    unfold admin
    rw [client_inForce hsupplied, hadmin]
    rfl

theorem retryTopics_inForce (s : KafkaSettings) (supplied : Supplied ε)
    (templates : List Template) :
    retryTopics (s.inForce supplied).retry templates supplied.retryTopics =
      retryTopics s.retry templates supplied.retryTopics := by
  show retryTopics (if supplied.retryTopics.isSome then .default else s.retry) _ _ = _
  cases supplied.retryTopics <;> rfl

end Assembly

/-- An assembly only sees the settings that are in force beside the supplied components. -/
theorem assemble_inForce (fs : FileSystem) (registry : Option Tls.Registry) (s : KafkaSettings)
    (supplied : Supplied ε) :
    assemble fs registry (s.inForce supplied) supplied = assemble fs registry s supplied := by
  unfold assemble
  simp only [Assembly.endpoints_inForce, Assembly.login_inForce, Assembly.producerFactory_inForce,
    Assembly.consumerFactory_inForce, Assembly.templates_inForce,
    Assembly.transactionManager_inForce, Assembly.admin_inForce, Assembly.retryTopics_inForce]

end Kafka

end ClientWiring
