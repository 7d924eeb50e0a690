import ClientWiring.Proofs.Secrecy.Entries
import ClientWiring.Proofs.Text.Shown
import ClientWiring.Settings.App

/-!
# What the text of settings tells about secrets

Settings are blanked by emptying every secret and, in every map of texts, the values of sensitive
keys.  The text of the settings tells nothing about secrets or about the options of the login.  It
does show the entries that are handed to clients as they are, sensitive or not, so of settings that
are the same when blanked:

    inspect s = inspect t ↔ s.givenEntries = t.givenEntries                       (inspect_eq_iff)
-/

namespace ClientWiring

open Inspect Redaction

/-! ## Blanked settings -/

/-- What a role may set, with sensitive entries blanked. -/
def RoleSettings.blanked (s : RoleSettings) : RoleSettings :=
  { s with properties := Redaction.blanked s.properties }

/-- Settings of the producer with sensitive entries blanked. -/
def ProducerSettings.blanked (s : ProducerSettings) : ProducerSettings :=
  { s with role := s.role.blanked }

/-- Settings of the consumer with sensitive entries blanked. -/
def ConsumerSettings.blanked (s : ConsumerSettings) : ConsumerSettings :=
  { s with role := s.role.blanked }

/-- Settings of the admin client with sensitive entries blanked. -/
def AdminSettings.blanked (s : AdminSettings) : AdminSettings :=
  { s with role := s.role.blanked }

/-- Settings of the streams role with sensitive entries blanked. -/
def StreamsSettings.blanked (s : StreamsSettings) : StreamsSettings :=
  { s with role := s.role.blanked }

/-- Settings of the login module with sensitive options blanked. -/
def JaasSettings.blanked (s : JaasSettings) : JaasSettings :=
  { s with options := Redaction.blanked s.options }

/-- The section `kafka` with sensitive entries and options blanked. -/
def KafkaSettings.blanked (s : KafkaSettings) : KafkaSettings :=
  { s with
    properties := Redaction.blanked s.properties
    producer := s.producer.blanked
    consumer := s.consumer.blanked
    admin := s.admin.blanked
    streams := s.streams.blanked
    jaas := s.jaas.blanked }

/-- The section `mongo` with its secrets blanked. -/
def MongoSettings.blanked (s : MongoSettings) : MongoSettings :=
  { s with
    uri := s.uri.map Secret.blanked
    password := s.password.map Secret.blanked }

/-- A store with the password of its key blanked. -/
def PemStoreSettings.blanked (s : PemStoreSettings) : PemStoreSettings :=
  { s with privateKeyPassword := s.privateKeyPassword.map Secret.blanked }

/-- A bundle with the passwords of its keys blanked. -/
def PemBundleSettings.blanked (s : PemBundleSettings) : PemBundleSettings :=
  { s with keystore := s.keystore.blanked, truststore := s.truststore.blanked }

/-- All bundles with the passwords of their keys blanked. -/
def TlsSettings.blanked (s : TlsSettings) : TlsSettings :=
  ⟨s.bundles.mapValues fun _ b => b.blanked⟩

/-- The whole configuration with all secrets and sensitive entries blanked. -/
def AppSettings.blanked (s : AppSettings) : AppSettings :=
  { s with
    tls := s.tls.blanked
    kafka := s.kafka.map KafkaSettings.blanked
    mongo := s.mongo.map MongoSettings.blanked }

/-! ## Sections that tell nothing -/

theorem inspect_blanked_jaas (s : JaasSettings) : inspect s.blanked = inspect s := by
  show record "JaasProperties" [_, _, _, field "options" (inspectEntries (blanked s.options))] = _
  rw [inspectEntries_blanked]
  rfl

theorem inspect_blanked_mongo (s : MongoSettings) : inspect s.blanked = inspect s := by
  show record "MongoProperties" [field "uri" (inspect (s.uri.map Secret.blanked)), _, _, _, _, _, _,
    field "password" (inspect (s.password.map Secret.blanked)), _, _, _] = _
  rw [inspect_secret_blanked, inspect_secret_blanked]
  rfl

theorem inspect_blanked_store (s : PemStoreSettings) : inspect s.blanked = inspect s := by
  show record "PemStoreProperties" [_, _,
    field "private_key_password" (inspect (s.privateKeyPassword.map Secret.blanked))] = _
  rw [inspect_secret_blanked]
  rfl

theorem inspect_blanked_bundle (s : PemBundleSettings) : inspect s.blanked = inspect s := by
  show record "PemSslBundleProperties" [field "keystore" (inspect s.keystore.blanked),
    field "truststore" (inspect s.truststore.blanked), _, _, _] = _
  rw [inspect_blanked_store, inspect_blanked_store]
  rfl

/-- A map looks the same when its values are changed without changing their looks. -/
theorem inspect_mapValues {α : Type} [Inspect α] {f : String → α → α}
    (hf : ∀ key v, inspect (f key v) = inspect v) (m : SortedMap α) :
    inspect (m.mapValues f) = inspect m := by
  show braced ((m.pairs.map _).map _) = braced (m.pairs.map _)
  rw [List.map_map]
  congr 1
  apply List.map_congr_left
  intro p hp
  exact congrArg _ (hf p.1 p.2)

theorem inspect_blanked_tls (s : TlsSettings) : inspect s.blanked = inspect s := by
  have hbundles : inspect s.blanked.bundles = inspect s.bundles :=
    inspect_mapValues (fun _ b => inspect_blanked_bundle b) s.bundles
  show record "SslProperties" [field "bundle" (record "SslBundleProperties"
    [field "pem" (inspect s.blanked.bundles)])] = _
  rw [hbundles]
  rfl

/-! ## Sections that tell their entries -/

/-- A section of a role ends in the entries that are given to its client, so its text tells them. -/
theorem inspect_section_append_inj {σ : Type} [Inspect σ] {name : String}
    {fields : σ → List String} (role : σ → RoleSettings) (blanked : σ → σ)
    (hinspect : ∀ s, inspect s = record name (fields s ++ (role s).trailingFields))
    (hfields : ∀ s, fields (blanked s) = fields s) {s t : σ} (h : blanked s = blanked t)
    {x y : String} :
    inspect s ++ x = inspect t ++ y ↔ (role s).properties = (role t).properties ∧ x = y := by
  have hsame : fields s = fields t := by
    rw [← hfields s, h, hfields t]
  rw [hinspect s, hinspect t, hsame]
  exact record_append_inj name (fields t) "properties"

theorem inspect_producer_append_inj {s t : ProducerSettings} (h : s.blanked = t.blanked)
    {x y : String} :
    inspect s ++ x = inspect t ++ y ↔ s.role.properties = t.role.properties ∧ x = y :=
  inspect_section_append_inj ProducerSettings.role ProducerSettings.blanked (fun _ => rfl)
    (fun _ => rfl) h

theorem inspect_consumer_append_inj {s t : ConsumerSettings} (h : s.blanked = t.blanked)
    {x y : String} :
    inspect s ++ x = inspect t ++ y ↔ s.role.properties = t.role.properties ∧ x = y :=
  inspect_section_append_inj ConsumerSettings.role ConsumerSettings.blanked (fun _ => rfl)
    (fun _ => rfl) h

theorem inspect_admin_append_inj {s t : AdminSettings} (h : s.blanked = t.blanked)
    {x y : String} :
    inspect s ++ x = inspect t ++ y ↔ s.role.properties = t.role.properties ∧ x = y :=
  inspect_section_append_inj AdminSettings.role AdminSettings.blanked (fun _ => rfl)
    (fun _ => rfl) h

theorem inspect_streams_append_inj {s t : StreamsSettings} (h : s.blanked = t.blanked)
    {x y : String} :
    inspect s ++ x = inspect t ++ y ↔ s.role.properties = t.role.properties ∧ x = y :=
  inspect_section_append_inj StreamsSettings.role StreamsSettings.blanked (fun _ => rfl)
    (fun _ => rfl) h

/-- The entries that are handed to clients as they are: the common ones, then those of producer,
consumer, admin and streams. -/
def KafkaSettings.givenEntries (s : KafkaSettings) : List (SortedMap String) :=
  [s.properties, s.producer.role.properties, s.consumer.role.properties,
   s.admin.role.properties, s.streams.role.properties]

theorem inspect_kafka (s : KafkaSettings) :
    inspect s = record "KafkaProperties"
      [field "bootstrap_servers" (inspect s.bootstrapServers),
       field "client_id" (inspect s.clientId), field "properties" (inspect s.properties),
       field "ssl" (inspectBundleName s.bundle),
       field "security" (inspectProtocol s.securityProtocol),
       field "producer" (inspect s.producer), field "consumer" (inspect s.consumer),
       field "admin" (inspect s.admin), field "streams" (inspect s.streams),
       field "jaas" (inspect s.jaas), field "template" (inspect s.template),
       field "retry" (inspect s.retry)] := rfl

/-- The section `kafka` tells the entries that are given to clients, and no option of the login. -/
theorem inspect_kafka_append_inj {s t : KafkaSettings} (h : s.blanked = t.blanked)
    {x y : String} :
    inspect s ++ x = inspect t ++ y ↔ s.givenEntries = t.givenEntries ∧ x = y := by
  have hservers : s.bootstrapServers = t.bootstrapServers :=
    (congrArg KafkaSettings.bootstrapServers h :)
  have hclient : s.clientId = t.clientId := (congrArg KafkaSettings.clientId h :)
  have hbundle : s.bundle = t.bundle := (congrArg KafkaSettings.bundle h :)
  have hprotocol : s.securityProtocol = t.securityProtocol :=
    (congrArg KafkaSettings.securityProtocol h :)
  have hproducer : s.producer.blanked = t.producer.blanked := (congrArg KafkaSettings.producer h :)
  have hconsumer : s.consumer.blanked = t.consumer.blanked := (congrArg KafkaSettings.consumer h :)
  have hadmin : s.admin.blanked = t.admin.blanked := (congrArg KafkaSettings.admin h :)
  have hstreams : s.streams.blanked = t.streams.blanked := (congrArg KafkaSettings.streams h :)
  have hjaas : inspect s.jaas = inspect t.jaas := by
    rw [← inspect_blanked_jaas s.jaas, ← inspect_blanked_jaas t.jaas]
    exact (congrArg (fun u : KafkaSettings => inspect u.jaas) h :)
  have htemplate : s.template = t.template := (congrArg KafkaSettings.template h :)
  have hretry : s.retry = t.retry := (congrArg KafkaSettings.retry h :)
  rw [inspect_kafka s, inspect_kafka t, hservers, hclient, hbundle, hprotocol, hjaas, htemplate,
    hretry]
  simp only [record, field, joined, String.intercalate_cons_cons, String.intercalate_singleton,
    String.append_assoc, String.append_right_inj, inspect_append_inj,
    inspect_producer_append_inj hproducer, inspect_consumer_append_inj hconsumer,
    inspect_admin_append_inj hadmin, inspect_streams_append_inj hstreams,
    KafkaSettings.givenEntries, List.cons.injEq, and_true, and_assoc]

/-! ## The whole configuration -/

/-- The entries of the whole configuration that are handed to clients as they are. -/
def AppSettings.givenEntries (s : AppSettings) : Option (List (SortedMap String)) :=
  s.kafka.map KafkaSettings.givenEntries

theorem inspect_optional_kafka_append_inj {s t : Option KafkaSettings}
    (h : s.map KafkaSettings.blanked = t.map KafkaSettings.blanked) {x y : String} :
    inspect s ++ x = inspect t ++ y ↔
      s.map KafkaSettings.givenEntries = t.map KafkaSettings.givenEntries ∧ x = y := by
  cases s with
  | none =>
    cases t with
    | none => simp only [String.append_right_inj, true_and]
    | some t => cases h
  | some s =>
    cases t with
    | none => cases h
    | some t =>
      have hkafka : s.blanked = t.blanked := Option.some.inj h
      show wrapped "Some" (inspect s) ++ x = wrapped "Some" (inspect t) ++ y ↔ _
      simp only [wrapped, String.append_assoc, String.append_right_inj,
        inspect_kafka_append_inj hkafka, Option.map_some, Option.some.injEq]

theorem inspect_app (s : AppSettings) :
    inspect s = record "AppConfig"
      [field "app_name" (inspect s.appName), field "app_env" (inspect s.appEnv),
       field "telemetry" (inspect s.telemetry), field "ssl" (inspect s.tls),
       field "kafka" (inspect s.kafka), field "mongo" (inspect s.mongo)] := rfl

theorem inspect_optional_mongo (s : Option MongoSettings) :
    inspect (s.map MongoSettings.blanked) = inspect s := by
  cases s with
  | none => rfl
  | some s =>
    show wrapped "Some" (inspect s.blanked) = _
    rw [inspect_blanked_mongo]
    rfl

/-- Configurations that are the same when blanked look the same just when the entries are the same
that they give to clients. -/
theorem AppSettings.inspect_eq_iff (s t : AppSettings) (h : s.blanked = t.blanked) :
    inspect s = inspect t ↔ s.givenEntries = t.givenEntries := by
  have hname : s.appName = t.appName := (congrArg AppSettings.appName h :)
  have henv : s.appEnv = t.appEnv := (congrArg AppSettings.appEnv h :)
  have htelemetry : s.telemetry = t.telemetry := (congrArg AppSettings.telemetry h :)
  have htls : inspect s.tls = inspect t.tls := by
    rw [← inspect_blanked_tls s.tls, ← inspect_blanked_tls t.tls]
    exact (congrArg (fun u : AppSettings => inspect u.tls) h :)
  have hmongo : inspect s.mongo = inspect t.mongo := by
    rw [← inspect_optional_mongo s.mongo, ← inspect_optional_mongo t.mongo]
    exact (congrArg (fun u : AppSettings => inspect u.mongo) h :)
  have hkafka : s.kafka.map KafkaSettings.blanked = t.kafka.map KafkaSettings.blanked :=
    (congrArg AppSettings.kafka h :)
  rw [inspect_app s, inspect_app t, hname, henv, htelemetry, htls, hmongo]
  simp only [record, field, joined, String.intercalate_cons_cons, String.intercalate_singleton,
    String.append_assoc, String.append_right_inj, inspect_optional_kafka_append_inj hkafka,
    givenEntries, and_true]

/-- A configuration with a password in every secret and in the options of the login, and one among
the entries that are given to all clients. -/
def AppSettings.passwords (hidden given : String) : AppSettings :=
  { appName := "svc"
    appEnv := AppSettings.defaultEnv
    telemetry := .default
    tls := ⟨.ofList [("pem", { PemBundleSettings.default with
      keystore := ⟨some "cert.pem", some "key.pem", some ⟨hidden⟩⟩
      truststore := ⟨some "ca.pem", none, some ⟨hidden⟩⟩ })]⟩
    kafka := some { KafkaSettings.default with
      properties := .ofList [("acks", "all"), ("sasl.password", given)]
      jaas := ⟨true, none, none, .ofList [("password", hidden), ("username", "alice")]⟩ }
    mongo := some { MongoSettings.default with
      uri := some ⟨hidden⟩
      password := some ⟨hidden⟩ } }

/-- Other secrets and options do not show, another given password does. -/
theorem AppSettings.inspect_eq_iff_passwords :
    ((passwords "h" "g").blanked = (passwords "i" "g").blanked ∧
      inspect (passwords "h" "g") = inspect (passwords "i" "g")) ∧
    ((passwords "h" "g").blanked = (passwords "i" "k").blanked ∧
      inspect (passwords "h" "g") ≠ inspect (passwords "i" "k")) := by
  have hsame : (passwords "h" "g").blanked = (passwords "i" "g").blanked := by decide
  have hother : (passwords "h" "g").blanked = (passwords "i" "k").blanked := by decide
  refine ⟨⟨hsame, (inspect_eq_iff _ _ hsame).mpr (by decide)⟩, hother, fun hinspect => ?_⟩
  exact absurd ((inspect_eq_iff _ _ hother).mp hinspect) (by decide)

/-- The password of a client is a sensitive entry, and the text of the settings shows it. -/
theorem AppSettings.given_password_shows :
    isSensitive "sasl.password" = true ∧
      (passwords "h" "hunter2").blanked = (passwords "h" "hunter3").blanked ∧
      inspect (passwords "h" "hunter2") ≠ inspect (passwords "h" "hunter3") := by
  refine ⟨by decide, by decide, ?_⟩
  decide +kernel

end ClientWiring
