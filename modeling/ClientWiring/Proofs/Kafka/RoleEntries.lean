import ClientWiring.Proofs.Kafka.Endpoints
import ClientWiring.Proofs.Kafka.Steps
import ClientWiring.Proofs.Text.Marks

/-!
# Which layer an entry comes from

Six layers write into the entries of a role: the common typed settings, the common entries given as
they are, the typed settings of the role, the entries of the role given as they are, the endpoint and
the login.  Two entries follow the endpoint.  All others come from the most special layer that has
them, and a login only fills gaps:

    client.get? key = resolved s role key                     (resolved_of_assemble_nothing)

Here `resolved` is said without the layers being written: it asks them one after the other.
-/

namespace ClientWiring.Kafka

/-! ## The layers, asked for one entry -/

/-- The typed setting of the producer that stands for an entry. -/
def producerEntry (s : ProducerSettings) (key : String) : Option String :=
  match key with
  | "client.id" => s.role.clientId
  | "acks" => s.acks
  | "batch.size" => s.batchSize.map (·.toNat.repr)
  | "queue.buffering.max.kbytes" => s.bufferMemoryKb.map (·.toNat.repr)
  | "compression.type" => s.compressionType
  | "retries" => s.retries.map (·.toNat.repr)
  | "linger.ms" => s.lingerMs.map (·.toNat.repr)
  | _ => none

/-- The typed setting of the consumer that stands for an entry. -/
def consumerEntry (s : ConsumerSettings) (key : String) : Option String :=
  match key with
  | "client.id" => s.role.clientId
  | "group.id" => s.groupId
  | "auto.commit.interval.ms" => s.autoCommitIntervalMs.map (·.toNat.repr)
  | "auto.offset.reset" => s.autoOffsetReset
  | "enable.auto.commit" => s.enableAutoCommit.map fun on => if on then "true" else "false"
  | "fetch.wait.max.ms" => s.fetchMaxWaitMs.map (·.toNat.repr)
  | "fetch.min.bytes" => s.fetchMinSize.map (·.toNat.repr)
  | "heartbeat.interval.ms" => s.heartbeatIntervalMs.map (·.toNat.repr)
  | "isolation.level" => s.isolationLevel
  | "max.poll.interval.ms" => s.maxPollIntervalMs.map (·.toNat.repr)
  | _ => none

/-- The typed setting that stands for an entry where only the name of the client does. -/
def clientIdEntry (clientId : Option String) (key : String) : Option String :=
  match key with
  | "client.id" => clientId
  | _ => none

/-- The typed setting of a role that stands for an entry. -/
def Role.typedEntry (s : KafkaSettings) : Role → String → Option String
  | .producer => producerEntry s.producer
  | .consumer => consumerEntry s.consumer
  | .admin => clientIdEntry s.admin.role.clientId
  | .streams => clientIdEntry s.streams.role.clientId

namespace Login

/-- The last of the parts of a class name between its points. -/
def lastPart (name : String) : String :=
  String.ofList ((name.toList.splitOn '.').getLastD [])

/-- The entry of a Kerberos login. -/
def kerberosEntry (options : SortedMap String) (key : String) : Option String :=
  match key with
  | "sasl.mechanism" => some "GSSAPI"
  | "sasl.kerberos.keytab" => options.get? "keyTab"
  | "sasl.kerberos.principal" => options.get? "principal"
  | "sasl.kerberos.service.name" => options.get? "serviceName"
  | _ => none

/-- The entry of a login by name and password. -/
def passwordEntry (mechanism : String) (options : SortedMap String) (key : String) :
    Option String :=
  match key with
  | "sasl.mechanism" => some mechanism
  | "sasl.username" => options.get? "username"
  | "sasl.password" => options.get? "password"
  | _ => none

/-- The entry of a login by token. -/
def bearerEntry (options : SortedMap String) (key : String) : Option String :=
  match key with
  | "sasl.mechanism" => some "OAUTHBEARER"
  | "sasl.oauthbearer.config" =>
    if options.pairs = [] then none
    else some (" ".intercalate (options.pairs.map fun p => p.1 ++ "=" ++ p.2))
  | _ => none

/-- The entry that a login module stands for, by the last part of its class name. -/
def derivedEntry (loginModule : String) (options : SortedMap String) (key : String) :
    Option String :=
  match lastPart loginModule with
  | "Krb5LoginModule" => kerberosEntry options key
  | "PlainLoginModule" => passwordEntry "PLAIN" options key
  | "ScramLoginModule" => passwordEntry "SCRAM-SHA-512" options key
  | "OAuthBearerLoginModule" => bearerEntry options key
  | _ => none

end Login

/-- The entry that the login of the settings stands for, if it is switched on. -/
def loginEntry (s : JaasSettings) (key : String) : Option String :=
  if s.enabled then
    Login.derivedEntry
      (s.loginModule.getD "com.sun.security.auth.module.Krb5LoginModule") s.options key
  else none

/-- The value of an entry, layer by layer, of a role with its own section and typed settings.  An empty
protocol of the endpoint gives way to given entries. -/
def layered (s : KafkaSettings) (own : RoleSettings) (typed : String → Option String)
    (key : String) : Option String :=
  if key = "bootstrap.servers" then
    some (",".intercalate (own.bootstrapServers.getD s.bootstrapServers))
  else if key = "security.protocol" then
    ((own.securityProtocol.or s.securityProtocol).filter (· ≠ "")).or
      ((own.properties.get? "security.protocol").or
        ((s.properties.get? "security.protocol").or (s.securityProtocol.filter (· ≠ ""))))
  else
    (own.properties.get? key).or
      ((typed key).or
        ((s.properties.get? key).or
          ((clientIdEntry s.clientId key).or (loginEntry s.jaas key))))

/-- The value of an entry of a role. -/
def resolved (s : KafkaSettings) : Role → String → Option String
  | .producer => layered s s.producer.role (producerEntry s.producer)
  | .consumer => layered s s.consumer.role (consumerEntry s.consumer)
  | .admin => layered s s.admin.role (clientIdEntry s.admin.role.clientId)
  | .streams => layered s s.streams.role (clientIdEntry s.streams.role.clientId)

theorem resolved_eq (s : KafkaSettings) (role : Role) :
    resolved s role = layered s (role.settings s) (role.typedEntry s) := by
  cases role <;> rfl

/-! ## Writing one layer -/

/-- The first value that a list of entries has for a key. -/
def firstEntry (key : String) (values : List (String × Option String)) : Option String :=
  values.findSome? fun p => if key = p.1 then p.2 else none

@[simp] theorem firstEntry_nil (key : String) : firstEntry key [] = none := rfl

theorem firstEntry_cons (key k : String) (v : Option String)
    (rest : List (String × Option String)) :
    firstEntry key ((k, v) :: rest) = (if key = k then v else none).or (firstEntry key rest) := by
  unfold firstEntry
  rw [List.findSome?_cons]
  cases (if key = k then v else none) <;> rfl

/-- In an overlay the last value of a key counts. -/
theorem get?_overlay (entries : SortedMap String) (values : List (String × Option String))
    (key : String) :
    (Client.overlay entries values).get? key =
      (firstEntry key values.reverse).or (entries.get? key) := by
  induction values generalizing entries with
  | nil => rfl
  | cons p rest ih =>
    obtain ⟨k, v⟩ := p
    have step : Client.overlay entries ((k, v) :: rest) =
        Client.overlay (entries.insertSome k v) rest := rfl
    have last : firstEntry key (rest.reverse ++ [(k, v)]) =
        (firstEntry key rest.reverse).or (if key = k then v else none) := by
      unfold firstEntry
      rw [List.findSome?_append, List.findSome?_singleton]
    rw [step, ih, SortedMap.get?_insertSome, List.reverse_cons, last]
    by_cases h : key = k
    · simp [h, Option.or_assoc]
    · simp [h]

namespace Client

/-- Clients with the same entries and the same bundle are the same. -/
theorem ext_get? {c d : Client} (htls : c.tls = d.tls)
    (h : ∀ key, c.get? key = d.get? key) : c = d := by
  obtain ⟨entries, tls⟩ := c
  obtain ⟨entries', tls'⟩ := d
  obtain rfl : tls = tls' := htls
  have hentries : entries = entries' := SortedMap.ext_get? h
  rw [hentries]

theorem get?_overlaid (c : Client) (values : List (String × Option String)) (key : String) :
    (c.overlaid values).get? key = (firstEntry key values.reverse).or (c.get? key) :=
  get?_overlay c.entries values key

theorem get?_setProtocol (c : Client) (protocol : Option String) (key : String) :
    (c.setProtocol protocol).get? key =
      if key = protocolKey then (nonEmpty protocol).or (c.get? key) else c.get? key :=
  get?_setSome c protocolKey (nonEmpty protocol) key

theorem tls_connect (c : Client) (e : Endpoint) : (c.connect e).tls = e.bundle.or c.tls := rfl

theorem get?_connect (c : Client) (e : Endpoint) (key : String) :
    (c.connect e).get? key =
      if key = serversKey then some e.joined
      else if key = protocolKey then (nonEmpty e.protocol).or (c.get? key)
      else c.get? key := by
  unfold connect
  rw [get?_useBundle, get?_setProtocol, get?_set]
  have hkeys : protocolKey ≠ serversKey := by decide
  by_cases hs : key = serversKey
  · subst hs
    simp [hkeys.symm]
  · simp [hs]

/-- The older form of a client adds two entries for its bundle, and nothing without one. -/
theorem get?_legacyEntries (c : Client) (key : String) :
    c.legacyEntries.get? key =
      match c.tls with
      | none => c.get? key
      | some bundle =>
        if key = "SslBundle" then some bundle.name
        else if key = "ssl.engine.factory.class" then some "SslBundleSslEngineFactory"
        else c.get? key := by
  unfold legacyEntries
  cases c.tls with
  | none => rfl
  | some bundle => simp only [SortedMap.get?_insert]; rfl

end Client

/-! ## The login -/

namespace Login

theorem simpleName_eq_lastPart (name : String) : simpleName name = lastPart name := by
  rw [simpleName, Text.reverse_takeWhile_reverse, lastPart]

theorem get?_addEntry (c : Client) (k : String) (v : Option String) (key : String) :
    (addEntry c (k, v)).get? key = (c.get? key).or (if key = k then v else none) := by
  cases v with
  | none => simp [addEntry]
  | some w =>
    simp only [addEntry, Client.get?_setIfNew]
    by_cases h : key = k
    · subst h
      cases c.get? key <;> simp
    · simp [h]

theorem get?_foldl_addEntry (entries : List (String × Option String)) (c : Client)
    (key : String) :
    (entries.foldl addEntry c).get? key = (c.get? key).or (firstEntry key entries) := by
  induction entries generalizing c with
  | nil => rw [List.foldl_nil, firstEntry_nil, Option.or_none]
  | cons p rest ih =>
    obtain ⟨k, v⟩ := p
    rw [List.foldl_cons, ih, get?_addEntry, firstEntry_cons, Option.or_assoc]

/-- A login only fills gaps. -/
theorem get?_apply (l : Login) (c : Client) (key : String) :
    (l.apply c).get? key = (c.get? key).or (firstEntry key l.entries) :=
  get?_foldl_addEntry l.entries c key

theorem kerberos_entries (options : SortedMap String) (key : String) :
    firstEntry key ((mechanismKey, some Family.kerberos.mechanism) ::
      Family.kerberos.optionEntries options) = kerberosEntry options key := by
  unfold kerberosEntry
  split <;> simp_all [Family.optionEntries, firstEntry_cons, mechanismKey, Family.mechanism,
    fileOption]

theorem password_entries (family : Family) (hf : family = .plain ∨ family = .scram)
    (options : SortedMap String) (key : String) :
    firstEntry key ((mechanismKey, some family.mechanism) :: family.optionEntries options) =
      passwordEntry family.mechanism options key := by
  have hoptions : family.optionEntries options =
      [("sasl.username", options.get? "username"), ("sasl.password", options.get? "password")] := by
    rcases hf with rfl | rfl <;> rfl
  unfold passwordEntry
  rw [hoptions]
  split <;> simp_all [firstEntry_cons, mechanismKey]

theorem bearer_entries (options : SortedMap String) (key : String) :
    firstEntry key ((mechanismKey, some Family.bearer.mechanism) ::
      Family.bearer.optionEntries options) = bearerEntry options key := by
  unfold bearerEntry
  split <;> simp_all [Family.optionEntries, firstEntry_cons, mechanismKey, Family.mechanism,
    joinedOptions, SortedMap.isEmpty]

/-- What a login derives is what its class name and options say. -/
theorem firstEntry_entries (l : Login) (key : String) :
    firstEntry key l.entries = derivedEntry l.loginModule l.options key := by
  unfold derivedEntry
  rw [← simpleName_eq_lastPart]
  split
  · next h =>
    simp only [entries, family?, h]
    exact kerberos_entries l.options key
  · next h =>
    simp only [entries, family?, h]
    exact password_entries .plain (.inl rfl) l.options key
  · next h =>
    simp only [entries, family?, h]
    exact password_entries .scram (.inr rfl) l.options key
  · next h =>
    simp only [entries, family?, h]
    exact bearer_entries l.options key
  · next h1 h2 h3 h4 =>
    have hnone : l.family? = none := by
      unfold family?
      split
      · next h => exact absurd h h1
      · next h => exact absurd h h2
      · next h => exact absurd h h3
      · next h => exact absurd h h4
      · rfl
    simp [entries, hnone]

theorem tls_foldl_addEntry (entries : List (String × Option String)) (c : Client) :
    (entries.foldl addEntry c).tls = c.tls := by
  induction entries generalizing c with
  | nil => rfl
  | cons p rest ih =>
    rw [List.foldl_cons, ih]
    unfold addEntry
    cases p.2 <;> rfl

theorem tls_apply (l : Login) (c : Client) : (l.apply c).tls = c.tls :=
  tls_foldl_addEntry l.entries c

/-- No login derives a security protocol. -/
theorem derivedEntry_protocolKey (loginModule : String) (options : SortedMap String) :
    derivedEntry loginModule options Client.protocolKey = none := by
  unfold derivedEntry
  split <;> rfl

theorem ofSettings_eq_ok {fs : FileSystem} {s : JaasSettings} {l : Login}
    (h : ofSettings fs s = .ok l) :
    l.loginModule = s.loginModule.getD defaultModule ∧ l.options = s.options := by
  unfold ofSettings setOptions at h
  split at h
  · cases h
  · split at h
    · cases h
      exact ⟨rfl, rfl⟩
    · cases h

end Login

/-! ## The entries of a role -/

theorem firstEntry_producerTuning (s : ProducerSettings) (key : String) :
    producerEntry s key =
      if key = Client.clientIdKey then s.role.clientId
      else firstEntry key (producerTuning s).reverse := by
  have hlong : entryOfUInt64 = fun n => n.toNat.repr := rfl
  have hshort : entryOfUInt32 = fun n => n.toNat.repr := rfl
  simp only [producerTuning, List.reverse_cons, List.reverse_nil, List.nil_append,
    List.cons_append, firstEntry_cons, producerEntry, hlong, hshort]
  split <;> simp_all [Client.clientIdKey]

theorem firstEntry_consumerTuning (s : ConsumerSettings) (key : String) :
    consumerEntry s key =
      if key = Client.clientIdKey then s.role.clientId
      else firstEntry key (consumerTuning s).reverse := by
  have hnumber : entryOfUInt64 = fun n => n.toNat.repr := rfl
  have htruth : entryOfBool = fun on => if on then "true" else "false" := rfl
  simp only [consumerTuning, List.reverse_cons, List.reverse_nil, List.nil_append,
    List.cons_append, firstEntry_cons, consumerEntry, hnumber, htruth]
  split <;> simp_all [Client.clientIdKey]

theorem clientIdEntry_eq (clientId : Option String) (key : String) :
    clientIdEntry clientId key = if key = Client.clientIdKey then clientId else none := by
  unfold clientIdEntry
  split <;> simp_all [Client.clientIdKey]

namespace Role

theorem typedEntry_eq (s : KafkaSettings) (role : Role) (key : String) :
    role.typedEntry s key =
      if key = Client.clientIdKey then (role.settings s).clientId
      else firstEntry key (role.tuning s).reverse := by
  cases role with
  | producer => exact firstEntry_producerTuning s.producer key
  | consumer => exact firstEntry_consumerTuning s.consumer key
  | admin => exact clientIdEntry_eq s.admin.role.clientId key
  | streams => exact clientIdEntry_eq s.streams.role.clientId key

/-- What every role has is not among the settings that only some have. -/
theorem firstEntry_tuning_eq_none (s : KafkaSettings) (role : Role) {key : String}
    (h : key = Client.protocolKey ∨ key = Client.clientIdKey) :
    firstEntry key (role.tuning s).reverse = none := by
  rcases h with rfl | rfl <;> cases role <;>
    simp [tuning, producerTuning, consumerTuning, firstEntry_cons, Client.protocolKey,
      Client.clientIdKey]

theorem get?_commonClient (s : KafkaSettings) (key : String) :
    (commonClient s).get? key =
      (s.properties.get? key).or
        (if key = Client.protocolKey then Client.nonEmpty s.securityProtocol
        else if key = Client.serversKey then some (Client.joinServers s.bootstrapServers)
        else clientIdEntry s.clientId key) := by
  have hps : Client.protocolKey ≠ Client.serversKey := by decide
  have hpc : Client.protocolKey ≠ Client.clientIdKey := by decide
  have hsc : Client.serversKey ≠ Client.clientIdKey := by decide
  unfold commonClient
  rw [Client.get?_setAll, Client.get?_setProtocol, Client.get?_setSome, Client.get?_set,
    clientIdEntry_eq]
  congr 1
  have hempty : Client.empty.get? key = none := rfl
  rw [hempty]
  by_cases hp : key = Client.protocolKey
  · subst hp
    simp [hps, hpc]
  · by_cases hs : key = Client.serversKey
    · subst hs
      simp [hps.symm, hsc]
    · simp [hp, hs]

/-- What a role adds to the common entries, the servers apart. -/
theorem get?_client (s : KafkaSettings) (role : Role) (key : String)
    (hs : key ≠ Client.serversKey) :
    (role.client s).get? key =
      ((role.settings s).properties.get? key).or
        (if key = Client.protocolKey then
          (Client.nonEmpty (role.settings s).securityProtocol).or ((commonClient s).get? key)
        else (role.typedEntry s key).or ((commonClient s).get? key)) := by
  unfold client
  rw [Client.get?_setAll, Client.get?_overlaid, Client.get?_setProtocol, Client.get?_setSome,
    Client.get?_setSome, if_neg hs, typedEntry_eq]
  congr 1
  by_cases hp : key = Client.protocolKey
  · subst hp
    have hpc : Client.protocolKey ≠ Client.clientIdKey := by decide
    simp [firstEntry_tuning_eq_none s role (.inl rfl), hpc]
  · by_cases hc : key = Client.clientIdKey
    · subst hc
      simp [hp, firstEntry_tuning_eq_none s role (.inr rfl)]
    · simp [hp, hc]

theorem tls_client (s : KafkaSettings) (role : Role) : (role.client s).tls = none := rfl

end Role

theorem nonEmpty_eq_none_of_or {own common : Option String}
    (h : Client.nonEmpty (own.or common) = none) : Client.nonEmpty own = none := by
  cases own with
  | none => rfl
  | some p => simpa using h

/-! ## The clients of an assembly -/

namespace Assembly

theorem login_eq_ok {fs : FileSystem} {s : JaasSettings} {made : Made (Option Login)}
    (h : login fs s none = .ok made) (key : String) :
    (made.component.bind fun l => firstEntry key l.entries) = loginEntry s key := by
  simp only [login] at h
  unfold loginEntry
  split at h
  · next hon =>
    rw [if_pos hon]
    split at h
    · next l hl =>
      cases h
      obtain ⟨hmodule, hoptions⟩ := Login.ofSettings_eq_ok hl
      rw [Option.bind_some, Login.firstEntry_entries, hmodule, hoptions]
      rfl
    · cases h
  · next hoff =>
    cases h
    rw [if_neg hoff]
    rfl

theorem get?_client_eq (s : KafkaSettings) (endpoints : Endpoints) (l : Option Login)
    (role : Role) (key : String) :
    (client s endpoints l role).get? key =
      (((role.client s).connect (endpoints.of role)).get? key).or
        (l.bind fun l => firstEntry key l.entries) := by
  unfold client
  cases l with
  | none => simp
  | some l => exact Login.get?_apply l _ key

theorem tls_client_eq (s : KafkaSettings) (endpoints : Endpoints) (l : Option Login)
    (role : Role) : (client s endpoints l role).tls = (endpoints.of role).bundle := by
  have hconnect : ((role.client s).connect (endpoints.of role)).tls =
      (endpoints.of role).bundle := by
    rw [Client.tls_connect, Role.tls_client, Option.or_none]
  unfold client
  cases l with
  | none => exact hconnect
  | some l => rw [Login.tls_apply, hconnect]

/-- Every entry of a role that was connected to its endpoint and logged in. -/
theorem get?_client_resolved {fs : FileSystem} {registry : Option Tls.Registry}
    {s : KafkaSettings} {e : Endpoints} {made : Made (Option Login)}
    (he : Endpoints.ofSettings registry s = .ok e) (hl : login fs s.jaas none = .ok made)
    (role : Role) (key : String) :
    (client s e made.component role).get? key = resolved s role key := by
  have hservers : "bootstrap.servers" = Client.serversKey := rfl
  have hprotocol : "security.protocol" = Client.protocolKey := rfl
  have hfilter : ∀ p : Option String, p.filter (· ≠ "") = Client.nonEmpty p := fun _ => rfl
  rw [get?_client_eq, login_eq_ok hl, Client.get?_connect, Endpoints.of_of_ofSettings he, resolved_eq]
  unfold layered
  rw [hservers, hprotocol, hfilter, hfilter]
  by_cases hs : key = Client.serversKey
  · rw [if_pos hs, if_pos hs]
    rfl
  rw [if_neg hs, if_neg hs, Role.get?_client s role key hs, Role.get?_commonClient]
  by_cases hp : key = Client.protocolKey
  · subst hp
    have hlogin : loginEntry s.jaas Client.protocolKey = none := by
      unfold loginEntry
      split
      · exact Login.derivedEntry_protocolKey _ _
      · rfl
    simp only [if_true, hlogin, Option.or_none]
    unfold Role.endpoint
    cases hn : Client.nonEmpty ((role.settings s).securityProtocol.or s.securityProtocol) with
    | some p => simp
    | none => simp [nonEmpty_eq_none_of_or hn]
  · simp only [if_neg hp, if_neg hs, Option.or_assoc]

end Assembly

/-- The configuration of a role among the components; no component is made for streams. -/
def Components.client? (c : Components) : Role → Option Client
  | .producer => some c.producerFactory.client
  | .consumer => some c.consumerFactory.client
  | .admin => some c.admin.client
  | .streams => none

/-- Without components of the caller, the configuration of a role is made from the settings. -/
theorem client?_of_assemble_nothing {ε : Type} {fs : FileSystem} {registry : Option Tls.Registry}
    {s : KafkaSettings} {c : Components}
    (h : (assemble fs registry s (Supplied.nothing : Supplied ε)).answer = .ok c) :
    ∃ e made, Endpoints.ofSettings registry s = .ok e ∧
      Assembly.login fs s.jaas none = .ok made ∧
      ∀ role client, c.client? role = some client →
        client = Assembly.client s e made.component role := by
  obtain ⟨endpoints, made, manager, he, hl, -, rfl⟩ :=
    (assemble_eq_ok_iff fs registry s Supplied.nothing c).mp h
  have hendpoints : Endpoints.ofSettings registry s = .ok endpoints.component := by
    simp only [Supplied.nothing, Assembly.endpoints] at he
    split at he
    · next e hof => cases he; exact hof
    · cases he
  refine ⟨endpoints.component, made, hendpoints, hl, fun role client hrole => ?_⟩
  cases role with
  | producer =>
    obtain rfl := Option.some.inj hrole
    exact congrArg (fun made : ProducerFactory × List ε => made.1.client)
      (Customizer.run_nil _)
  | consumer =>
    obtain rfl := Option.some.inj hrole
    exact congrArg (fun made : ConsumerFactory × List ε => made.1.client)
      (Customizer.run_nil _)
  | admin => exact (Option.some.inj hrole).symm
  | streams => cases hrole

/-- Every entry of every role comes from the first layer that has it, and its bundle is the
registered one of the name that the role uses. -/
theorem resolved_of_assemble_nothing {ε : Type} (fs : FileSystem) (registry : Option Tls.Registry)
    (s : KafkaSettings) (c : Components)
    (h : (assemble fs registry s (Supplied.nothing : Supplied ε)).answer = .ok c)
    (role : Role) (client : Client) (hrole : c.client? role = some client) :
    (∀ key, client.get? key = resolved s role key) ∧
      (match role.bundleName s with
        | none => client.tls = none
        | some name =>
          ∃ bundle, Tls.registered? registry name = some bundle ∧ client.tls = some bundle) ∧
      ∀ key, client.legacyEntries.get? key =
        match client.tls with
        | none => resolved s role key
        | some bundle =>
          if key = "SslBundle" then some bundle.name
          else if key = "ssl.engine.factory.class" then some "SslBundleSslEngineFactory"
          else resolved s role key := by
  obtain ⟨e, made, he, hl, hclient⟩ := client?_of_assemble_nothing h
  have hget : ∀ key, client.get? key = resolved s role key := by
    intro key
    rw [hclient role client hrole]
    exact Assembly.get?_client_resolved he hl role key
  have htls : client.tls = (role.bundleName s).bind (Tls.registered? registry) := by
    rw [hclient role client hrole, Assembly.tls_client_eq, Endpoints.of_of_ofSettings he]
    rfl
  refine ⟨hget, ?_, fun key => ?_⟩
  · cases hname : role.bundleName s with
    | none => simpa [hname] using htls
    | some name =>
      have hsome := Endpoints.isSome_registered?_of_ofSettings he role name hname
      obtain ⟨bundle, hb⟩ := Option.isSome_iff_exists.mp hsome
      exact ⟨bundle, hb, by simp [htls, hname, hb]⟩
  · rw [Client.get?_legacyEntries, hget]

/-- A producer that overrides the common layers, with a login and a bundle. -/
def sampleSettings : KafkaSettings :=
  { KafkaSettings.default with
    clientId := some "common"
    properties := .ofList [("client.id", "raw"), ("security.protocol", "SSL")]
    bundle := some "pem"
    producer := { ProducerSettings.default with
      role := { RoleSettings.default with
        bootstrapServers := some ["a:1", "b:2"]
        securityProtocol := some ""
        properties := .ofList [("bootstrap.servers", "ignored"), ("acks", "all")] }
      acks := some "1"
      batchSize := some 16384 }
    jaas := { JaasSettings.default with
      enabled := true
      loginModule := some "org.example.PlainLoginModule"
      options := .ofList [("username", "u")] } }

/-- A registry with one bundle without material. -/
def sampleRegistry : Tls.Registry :=
  ⟨.ofList [("pem", ⟨"pem", .none, .none, Tls.defaultProtocol⟩)]⟩

/-- The empty protocol of the role gives way to the common entries, and the login adds a user. -/
theorem resolved_of_assemble_nothing_sample :
    ∃ c client, (assemble (.ofFiles []) (some sampleRegistry) sampleSettings
        (Supplied.nothing : Supplied Unit)).answer = .ok c ∧
      c.client? .producer = some client ∧
      client.get? "bootstrap.servers" = some "a:1,b:2" ∧
      client.get? "security.protocol" = some "SSL" ∧
      client.get? "client.id" = some "raw" ∧
      client.get? "acks" = some "all" ∧
      client.get? "batch.size" = some "16384" ∧
      client.get? "sasl.username" = some "u" ∧
      client.get? "sasl.password" = none ∧
      client.tls.isSome = true := by
  refine ⟨_, _, rfl, rfl, ?_⟩
  obtain ⟨hget, ⟨bundle, -, htls⟩, -⟩ :=
    resolved_of_assemble_nothing (.ofFiles []) (some sampleRegistry) sampleSettings _
      (rfl : (assemble (.ofFiles []) (some sampleRegistry) sampleSettings
        (Supplied.nothing : Supplied Unit)).answer = .ok _) .producer _ rfl
  refine ⟨(hget _).trans ?_, (hget _).trans ?_, (hget _).trans ?_, (hget _).trans ?_,
    (hget _).trans ?_, (hget _).trans ?_, (hget _).trans ?_, by rw [htls]; rfl⟩
  all_goals decide

end ClientWiring.Kafka
