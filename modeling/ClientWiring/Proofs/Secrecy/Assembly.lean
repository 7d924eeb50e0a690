import ClientWiring.Proofs.Kafka.RoleEntries
import ClientWiring.Proofs.Secrecy.Clients

/-!
# What an assembly tells

Of an assembly one sees the text of its components, of the client of each role, and of the login.
With nothing supplied these texts do not depend on secrets: settings and registry may be blanked
before the assembly.

    (assemble fs (registry.map Registry.blanked) s.blanked nothing).answer.map texts =
      (assemble fs registry s nothing).answer.map texts                  (texts_assemble_blanked)

So two assemblies whose settings and registries are the same when blanked look the same, and they
fail with the same error                                             (looks_same_of_blanked_eq).
-/

namespace ClientWiring.Kafka

/-- The texts in which an assembly shows itself. -/
structure Texts where
  components : String
  client? : Role → Option String
  login? : Option String

/-- The texts of assembled components. -/
def Components.texts (c : Components) : Texts :=
  { components := inspect c
    client? := fun role => (c.client? role).map inspect
    login? := c.login.map inspect }

/-- What a step gives, with the component changed. -/
def Made.map {α β : Type} (f : α → β) (made : Made α) : Made β := ⟨f made.component, made.outcome⟩

namespace Assembly

variable {ε : Type}

/-! ## Steps that can fail -/

theorem endpoints_blanked (registry : Option Tls.Registry) (s : KafkaSettings) :
    endpoints (registry.map Tls.Registry.blanked) s.blanked none =
      (endpoints registry s none).map (Made.map Endpoints.blanked) := by
  unfold endpoints
  rw [Endpoints.ofSettings_blanked]
  cases Endpoints.ofSettings registry s <;> rfl

theorem login_blanked (fs : FileSystem) (s : JaasSettings) :
    login fs s.blanked none = (login fs s none).map (Made.map (Option.map Login.blanked)) := by
  unfold login
  rw [show s.blanked.enabled = s.enabled from rfl, Login.ofSettings_blanked]
  cases s.enabled with
  | false => rfl
  | true => cases Login.ofSettings fs s <;> rfl

/-! ## Clients -/

theorem blanked_client (s : KafkaSettings) (e : Endpoints) (l : Option Login) (role : Role) :
    (client s.blanked e.blanked (l.map Login.blanked) role).blanked =
      (client s e l role).blanked := by
  have hconnect : ((role.client s).connect (e.of role)).blanked =
      (role.client s.blanked).connect (e.blanked.of role) := by
    rw [Client.blanked_connect, Role.blanked_client, Endpoints.of_blanked]
  -- a login gives options new names, so only what is blanked behind it can agree
  cases l with
  | none =>
    show ((role.client s.blanked).connect (e.blanked.of role)).blanked = _
    rw [← hconnect, Client.blanked_blanked]
    rfl
  | some l =>
    show (l.blanked.apply ((role.client s.blanked).connect (e.blanked.of role))).blanked =
      (l.apply ((role.client s).connect (e.of role))).blanked
    rw [← hconnect, ← Login.blanked_apply]

theorem inspect_client_blanked (s : KafkaSettings) (e : Endpoints) (l : Option Login)
    (role : Role) :
    inspect (client s.blanked e.blanked (l.map Login.blanked) role) = inspect (client s e l role) := by
  rw [← Client.inspect_blanked_client, blanked_client, Client.inspect_blanked_client]

/-! ## Components -/

theorem inspect_defaultManager_blanked (s : KafkaSettings) (e : Made Endpoints)
    (l : Made (Option Login)) :
    (defaultManager s.blanked (e.map Endpoints.blanked) (l.map (Option.map Login.blanked))).map
        inspect =
      (defaultManager s e l).map inspect := by
  unfold defaultManager
  rw [show s.blanked.producer.transactionIdPrefix = s.producer.transactionIdPrefix from rfl]
  cases (Client.nonEmpty s.producer.transactionIdPrefix).isSome <;> rfl

theorem inspect_adminOfSettings (s : AdminSettings) {c d : Client} (h : inspect c = inspect d) :
    inspect (adminOfSettings s c) = inspect (adminOfSettings s d) := by
  show Inspect.record "KafkaAdmin" [Inspect.field "properties" (inspect c), _, _, _, _, _] = _
  rw [h]
  rfl

/-- Retry topics show of their template what the template shows. -/
theorem inspect_retryTopics (s : RetrySettings) {t u : Template} (h : inspect t = inspect u) :
    (retryTopics s [t] none).map inspect = (retryTopics s [u] none).map inspect := by
  unfold retryTopics
  cases s.enabled with
  | false => rfl
  | true =>
    show Made.mk (Inspect.wrapped "Some" (Inspect.record "RetryTopicConfiguration"
      [_, _, _, _, _, Inspect.field "template" (inspect t)])) Outcome.created = _
    rw [h]
    rfl

theorem inspect_defaultComponents (s : KafkaSettings) (e : Made Endpoints)
    (l : Made (Option Login)) :
    inspect (defaultComponents s e l) =
      Inspect.openRecord "KafkaComponents"
        [Inspect.field "templates" (inspect [plainTemplate s e l]),
         Inspect.field "transaction_manager" ((defaultManager s e l).map inspect).component,
         Inspect.field "admin" (inspect (adminOfSettings s.admin
           (client s e.component l.component .admin))),
         Inspect.field "retry_topic_configuration"
           ((retryTopics s.retry [plainTemplate s e l] none).map inspect).component,
         Inspect.field "report" (inspect
           ([⟨.connectionDetails, e.outcome⟩, ⟨.jaasInitializer, l.outcome⟩,
             ⟨.producerListener, .created⟩, ⟨.producerFactory, .created⟩,
             ⟨.consumerFactory, .created⟩, ⟨.template, .created⟩,
             ⟨.transactionManager, ((defaultManager s e l).map inspect).outcome⟩,
             ⟨.admin, .created⟩,
             ⟨.retryTopics, ((retryTopics s.retry [plainTemplate s e l] none).map
               inspect).outcome⟩] : Report))] := rfl

/-- The text of all components does not tell whether secrets were blanked before. -/
theorem inspect_defaultComponents_blanked (s : KafkaSettings) (e : Made Endpoints)
    (l : Made (Option Login)) :
    inspect (defaultComponents s.blanked (e.map Endpoints.blanked)
        (l.map (Option.map Login.blanked))) =
      inspect (defaultComponents s e l) := by
  -- a template shows nothing of its factory, where the secrets are
  have htemplate : inspect (plainTemplate s.blanked (e.map Endpoints.blanked)
      (l.map (Option.map Login.blanked))) = inspect (plainTemplate s e l) := rfl
  have htemplates : inspect [plainTemplate s.blanked (e.map Endpoints.blanked)
      (l.map (Option.map Login.blanked))] = inspect [plainTemplate s e l] := rfl
  have hadmin : inspect (adminOfSettings s.blanked.admin (client s.blanked
      (e.map Endpoints.blanked).component (l.map (Option.map Login.blanked)).component .admin)) =
        inspect (adminOfSettings s.admin (client s e.component l.component .admin)) :=
    inspect_adminOfSettings s.admin (inspect_client_blanked s e.component l.component .admin)
  have hretry := inspect_retryTopics s.retry htemplate
  rw [inspect_defaultComponents, inspect_defaultComponents, inspect_defaultManager_blanked,
    htemplates, hadmin, show s.blanked.retry = s.retry from rfl, hretry]
  rfl

theorem texts_defaultComponents_blanked (s : KafkaSettings) (e : Made Endpoints)
    (l : Made (Option Login)) :
    (defaultComponents s.blanked (e.map Endpoints.blanked)
        (l.map (Option.map Login.blanked))).texts =
      (defaultComponents s e l).texts := by
  have hclients : ∀ role, ((defaultComponents s.blanked (e.map Endpoints.blanked)
      (l.map (Option.map Login.blanked))).client? role).map inspect =
        ((defaultComponents s e l).client? role).map inspect := by
    intro role
    have hclient := inspect_client_blanked s e.component l.component role
    cases role with
    | producer => exact congrArg some hclient
    | consumer => exact congrArg some hclient
    | admin => exact congrArg some hclient
    | streams => rfl
  have hlogin : (l.component.map Login.blanked).map inspect = l.component.map inspect := by
    cases l.component with
    | none => rfl
    | some l => exact congrArg some (Login.inspect_blanked_login l)
  unfold Components.texts
  rw [inspect_defaultComponents_blanked, funext hclients]
  exact congrArg (Texts.mk _ _) hlogin

end Assembly

/-! ## Whole assemblies -/

variable {ε : Type}

/-- Whether secrets were blanked before an assembly is not to be seen. -/
theorem texts_assemble_blanked (fs : FileSystem) (registry : Option Tls.Registry)
    (s : KafkaSettings) :
    (assemble fs (registry.map Tls.Registry.blanked) s.blanked
        (Supplied.nothing : Supplied ε)).answer.map Components.texts =
      (assemble fs registry s (Supplied.nothing : Supplied ε)).answer.map Components.texts := by
  -- the same step fails in both, or both go on with components that differ by blanking
  rw [answer_assemble_nothing, answer_assemble_nothing, Assembly.endpoints_blanked]
  cases Assembly.endpoints registry s none with
  | error e => rfl
  | ok e =>
    show (Assembly.login fs s.blanked.jaas none >>= fun l => .ok (Assembly.defaultComponents
        s.blanked (e.map Endpoints.blanked) l)).map Components.texts =
      (Assembly.login fs s.jaas none >>= fun l => .ok (Assembly.defaultComponents
        s e l)).map Components.texts
    rw [show s.blanked.jaas = s.jaas.blanked from rfl, Assembly.login_blanked]
    cases Assembly.login fs s.jaas none with
    | error e => rfl
    | ok l => exact congrArg Except.ok (Assembly.texts_defaultComponents_blanked s e l)

/-- Assemblies whose settings and registries are the same but for sensitive entries and options and
for passwords of keys fail with the same error, or succeed and show the same texts. -/
theorem looks_same_of_blanked_eq (fs : FileSystem) (registry registry' : Option Tls.Registry)
    (s t : KafkaSettings) (hs : s.blanked = t.blanked)
    (hr : registry.map Tls.Registry.blanked = registry'.map Tls.Registry.blanked) :
    (∃ e, (assemble fs registry s (Supplied.nothing : Supplied ε)).answer = .error e ∧
        (assemble fs registry' t (Supplied.nothing : Supplied ε)).answer = .error e) ∨
      ∃ c d, (assemble fs registry s (Supplied.nothing : Supplied ε)).answer = .ok c ∧
        (assemble fs registry' t (Supplied.nothing : Supplied ε)).answer = .ok d ∧
        inspect c = inspect d ∧
        (∀ role, (c.client? role).map inspect = (d.client? role).map inspect) ∧
        c.login.map inspect = d.login.map inspect := by
  have htexts : (assemble fs registry s (Supplied.nothing : Supplied ε)).answer.map
      Components.texts =
        (assemble fs registry' t (Supplied.nothing : Supplied ε)).answer.map Components.texts := by
    rw [← texts_assemble_blanked, ← texts_assemble_blanked fs registry' t, hs, hr]
  obtain ⟨e, hc, hd⟩ | ⟨c, d, hc, hd, h⟩ := eq_error_or_eq_ok_of_map_eq htexts
  · exact .inl ⟨e, hc, hd⟩
  · exact .inr ⟨c, d, hc, hd, congrArg Texts.components h,
      congrFun (congrArg Texts.client? h), congrArg Texts.login? h⟩

/-- Settings with a password among the common entries, among those of the producer, and in the
options of a login by token. -/
def passwordSettings (password : String) : KafkaSettings :=
  { KafkaSettings.default with
    properties := .ofList [("acks", "all"), ("sasl.password", password)]
    bundle := some "pem"
    producer := { ProducerSettings.default with
      role := { RoleSettings.default with
        properties := .ofList [("ssl.keystore.Password", password)] }
      transactionIdPrefix := some "tx-" }
    jaas := ⟨true, some "org.example.OAuthBearerLoginModule", none,
      .ofList [("clientId", "c"), ("clientSecret", password)]⟩
    retry := { RetrySettings.default with enabled := true } }

/-- A registry with one bundle, whose key has a password. -/
def passwordRegistry (password : String) : Tls.Registry :=
  ⟨.ofList [("pem", ⟨"pem", ⟨none, some "cert.pem", some "key.pem", some ⟨password⟩, true⟩, .none,
    Tls.defaultProtocol⟩)]⟩

/-- The clients differ in what they use to log in, and look the same. -/
theorem looks_same_of_blanked_eq_passwords :
    ∃ c d,
      (assemble (.ofFiles []) (some (passwordRegistry "h")) (passwordSettings "h")
        (Supplied.nothing : Supplied Unit)).answer = .ok c ∧
      (assemble (.ofFiles []) (some (passwordRegistry "i")) (passwordSettings "i")
        (Supplied.nothing : Supplied Unit)).answer = .ok d ∧
      c.admin.client.get? "sasl.oauthbearer.config" = some "clientId=c clientSecret=h" ∧
      d.admin.client.get? "sasl.oauthbearer.config" = some "clientId=c clientSecret=i" ∧
      inspect c = inspect d ∧
      (∀ role, (c.client? role).map inspect = (d.client? role).map inspect) ∧
      c.login.map inspect = d.login.map inspect := by
  have hlogin : ∀ password, password = "h" ∨ password = "i" →
      (assemble (.ofFiles []) (some (passwordRegistry password)) (passwordSettings password)
        (Supplied.nothing : Supplied Unit)).answer.toOption.bind
          (fun c => c.admin.client.get? "sasl.oauthbearer.config") =
        some ("clientId=c clientSecret=" ++ password) := by
    intro password hpassword
    rw [answer_assemble_nothing]
    obtain rfl | rfl := hpassword <;> decide +kernel
  obtain ⟨e, hc, -⟩ | ⟨c, d, hc, hd, hsame⟩ :=
    looks_same_of_blanked_eq (ε := Unit) (.ofFiles []) (some (passwordRegistry "h"))
      (some (passwordRegistry "i")) (passwordSettings "h") (passwordSettings "i")
      (by decide) (by decide)
  · have hsome := hlogin "h" (.inl rfl)
    rw [hc] at hsome
    cases hsome
  · have hcget := hlogin "h" (.inl rfl)
    have hdget := hlogin "i" (.inr rfl)
    rw [hc] at hcget
    rw [hd] at hdget
    exact ⟨c, d, hc, hd, hcget, hdget, hsame⟩

end ClientWiring.Kafka
