import ClientWiring.Proofs.Tree.Outline
import ClientWiring.Settings.App

/-!
# Absent and empty sections of the settings

Every section of the settings but `kafka` and `mongo` may be left out, and has a default of its own for
that case; each of its fields has one for the case that the section is there and the field is not.  The
two agree in every section:

    PemBundleSettings.ofTree? surplus (table []) = some .default      (PemBundleSettings.defaultsTo)

and so on.  So an absent section is read like an empty one at any depth, and since fields that a section
does not know are not looked at, trees that differ by edits are read as the same settings, or none of
them can be read                                                        (AppSettings.ofTree?_of_edits).
-/

namespace ClientWiring

open ClientWiring.Tree

/-! ## Outlines -/

def TelemetrySettings.outline : Outline := .ofSection TelemetrySettings.fieldNames []

def PemStoreSettings.outline : Outline := .ofSection PemStoreSettings.fieldNames []

def TlsOptionSettings.outline : Outline := .ofSection TlsOptionSettings.fieldNames []

def PemBundleSettings.outline : Outline :=
  .ofSection PemBundleSettings.fieldNames
    [("keystore", PemStoreSettings.outline), ("truststore", PemStoreSettings.outline),
     ("options", TlsOptionSettings.outline)]

/-- The section inside `ssl` that holds the bundles. -/
def TlsSettings.bundleOutline : Outline :=
  .ofSection ["pem"] [("pem", .ofMap PemBundleSettings.outline)]

def TlsSettings.outline : Outline := .ofSection ["bundle"] [("bundle", TlsSettings.bundleOutline)]

/-- A map of texts. -/
def textMapOutline : Outline := .ofMap .ofValue

/-- The section that names a TLS bundle. -/
def bundleNameOutline : Outline := .ofSection ["bundle"] []

/-- The section that names a security protocol. -/
def protocolOutline : Outline := .ofSection ["protocol"] []

/-- The parts that all roles have. -/
def RoleSettings.parts : List (String × Outline) :=
  [("ssl", bundleNameOutline), ("security", protocolOutline), ("properties", textMapOutline)]

/-- The outline of a role with these fields. -/
def RoleSettings.outline (names : List String) : Outline := .ofSection names RoleSettings.parts

def JaasSettings.outline : Outline :=
  .ofSection JaasSettings.fieldNames [("options", textMapOutline)]

def TemplateSettings.outline : Outline := .ofSection TemplateSettings.fieldNames []

def BackOffSettings.outline : Outline := .ofSection BackOffSettings.fieldNames []

/-- The section `kafka.retry.topic`. -/
def RetrySettings.topicOutline : Outline :=
  .ofSection RetrySettings.topicFieldNames [("backoff", BackOffSettings.outline)]

def RetrySettings.outline : Outline := .ofSection ["topic"] [("topic", RetrySettings.topicOutline)]

def KafkaSettings.outline : Outline :=
  .ofSection KafkaSettings.fieldNames
    [("properties", textMapOutline), ("ssl", bundleNameOutline), ("security", protocolOutline),
     ("producer", RoleSettings.outline ProducerSettings.fieldNames),
     ("consumer", RoleSettings.outline ConsumerSettings.fieldNames),
     ("admin", RoleSettings.outline AdminSettings.fieldNames),
     ("streams", RoleSettings.outline StreamsSettings.fieldNames),
     ("jaas", JaasSettings.outline), ("template", TemplateSettings.outline),
     ("retry", RetrySettings.outline)]

def MongoTlsSettings.outline : Outline := .ofSection MongoTlsSettings.fieldNames []

def MongoSettings.outline : Outline :=
  .ofSection MongoSettings.fieldNames [("ssl", MongoTlsSettings.outline)]

/-- The whole configuration, in which `kafka` and `mongo` may be absent without being empty. -/
def AppSettings.outline : Outline :=
  .ofSection AppSettings.fieldNames
    [("telemetry", TelemetrySettings.outline), ("ssl", TlsSettings.outline),
     ("kafka", .ofOption KafkaSettings.outline), ("mongo", .ofOption MongoSettings.outline)]

variable (surplus : Surplus)

/-! ## TLS bundles -/

theorem PemStoreSettings.defaultsTo :
    DefaultsTo PemStoreSettings.outline (PemStoreSettings.ofTree? surplus) .default :=
  defaultsTo_sectionOf? rfl fun _ _ h => by
    simp (disch := decide) only [h.optional]

theorem TlsOptionSettings.defaultsTo :
    DefaultsTo TlsOptionSettings.outline (TlsOptionSettings.ofTree? surplus) .default :=
  defaultsTo_sectionOf? rfl fun _ _ h => by
    simp (disch := decide) only [h.optional]

theorem PemBundleSettings.defaultsTo :
    DefaultsTo PemBundleSettings.outline (PemBundleSettings.ofTree? surplus) .default :=
  defaultsTo_sectionOf? rfl fun _ _ h => by
    have hstore := PemStoreSettings.defaultsTo surplus
    have hoptions := TlsOptionSettings.defaultsTo surplus
    simp (disch := decide) only [h.optional, h.withDefault,
      h.withDefault_part "keystore" (by decide) rfl hstore,
      h.withDefault_part "truststore" (by decide) rfl hstore,
      h.withDefault_part "options" (by decide) rfl hoptions]

theorem TlsSettings.defaultsTo_ofBundleTree? :
    DefaultsTo TlsSettings.bundleOutline (TlsSettings.ofBundleTree? surplus) .default :=
  defaultsTo_sectionOf? rfl fun _ _ h => by
    have hbundles := (PemBundleSettings.defaultsTo surplus).follows.defaultsTo_mapOf?
    simp only [h.withDefault_part "pem" (by decide) rfl hbundles]

theorem TlsSettings.defaultsTo :
    DefaultsTo TlsSettings.outline (TlsSettings.ofTree? surplus) .default :=
  defaultsTo_sectionOf? rfl fun _ _ h =>
    h.withDefault_part "bundle" (by decide) rfl (TlsSettings.defaultsTo_ofBundleTree? surplus)

/-! ## Kafka -/

theorem defaultsTo_textMap? : DefaultsTo textMapOutline textMap? .empty :=
  (follows_ofValue text?).defaultsTo_mapOf?

theorem defaultsTo_bundleNameOfTree? :
    DefaultsTo bundleNameOutline (bundleNameOfTree? surplus) none :=
  defaultsTo_sectionOf? rfl fun _ _ h => h.optional (by decide) rfl

theorem defaultsTo_protocolOfTree? : DefaultsTo protocolOutline (protocolOfTree? surplus) none :=
  defaultsTo_sectionOf? rfl fun _ _ h => h.optional (by decide) rfl

/-- What the four roles have in common is read from the fields of the role itself. -/
theorem RoleSettings.ofFields?_edited {names : List String} {fields fields' : Fields}
    (hnames : ["bootstrap_servers", "client_id", "ssl", "security", "properties"] ⊆ names)
    (h : EditedFields names RoleSettings.parts fields fields') :
    RoleSettings.ofFields? surplus fields = RoleSettings.ofFields? surplus fields' := by
  have hbundle := defaultsTo_bundleNameOfTree? surplus
  have hprotocol := defaultsTo_protocolOfTree? surplus
  have hknown : ∀ name ∈ ["bootstrap_servers", "client_id", "ssl", "security", "properties"],
      name ∈ names := fun name hname => hnames hname
  have hservers := hknown "bootstrap_servers" (by decide)
  have hclient := hknown "client_id" (by decide)
  simp only [RoleSettings.ofFields?, h.optional hservers rfl, h.optional hclient rfl,
    h.withDefault_part "ssl" (hknown _ (by decide)) rfl hbundle,
    h.withDefault_part "security" (hknown _ (by decide)) rfl hprotocol,
    h.withDefault_part "properties" (hknown _ (by decide)) rfl defaultsTo_textMap?]

theorem ProducerSettings.defaultsTo :
    DefaultsTo (RoleSettings.outline ProducerSettings.fieldNames)
      (ProducerSettings.ofTree? surplus) .default :=
  defaultsTo_sectionOf? rfl fun _ _ h => by
    simp (disch := decide) only [RoleSettings.ofFields?_edited surplus (by decide) h, h.optional]

theorem ConsumerSettings.defaultsTo :
    DefaultsTo (RoleSettings.outline ConsumerSettings.fieldNames)
      (ConsumerSettings.ofTree? surplus) .default :=
  defaultsTo_sectionOf? rfl fun _ _ h => by
    simp (disch := decide) only [RoleSettings.ofFields?_edited surplus (by decide) h, h.optional]

theorem AdminSettings.defaultsTo :
    DefaultsTo (RoleSettings.outline AdminSettings.fieldNames)
      (AdminSettings.ofTree? surplus) .default :=
  defaultsTo_sectionOf? rfl fun _ _ h => by
    simp (disch := decide) only [RoleSettings.ofFields?_edited surplus (by decide) h, h.optional,
      h.withDefault]

theorem StreamsSettings.defaultsTo :
    DefaultsTo (RoleSettings.outline StreamsSettings.fieldNames)
      (StreamsSettings.ofTree? surplus) .default :=
  defaultsTo_sectionOf? rfl fun _ _ h => by
    simp (disch := decide) only [RoleSettings.ofFields?_edited surplus (by decide) h, h.optional]

theorem JaasSettings.defaultsTo :
    DefaultsTo JaasSettings.outline (JaasSettings.ofTree? surplus) .default :=
  defaultsTo_sectionOf? rfl fun _ _ h => by
    simp (disch := decide) only [h.optional, h.withDefault,
      h.withDefault_part "options" (by decide) rfl defaultsTo_textMap?]

theorem TemplateSettings.defaultsTo :
    DefaultsTo TemplateSettings.outline (TemplateSettings.ofTree? surplus) .default :=
  defaultsTo_sectionOf? rfl fun _ _ h => by
    simp (disch := decide) only [h.optional]

theorem BackOffSettings.defaultsTo :
    DefaultsTo BackOffSettings.outline (BackOffSettings.ofTree? surplus) .default :=
  defaultsTo_sectionOf? rfl fun _ _ h => by
    simp (disch := decide) only [h.optional, h.withDefault]

theorem RetrySettings.defaultsTo_ofTopicTree? :
    DefaultsTo RetrySettings.topicOutline (RetrySettings.ofTopicTree? surplus) .default :=
  defaultsTo_sectionOf? rfl fun _ _ h => by
    have hbackOff := BackOffSettings.defaultsTo surplus
    simp (disch := decide) only [h.withDefault,
      h.withDefault_part "backoff" (by decide) rfl hbackOff]

theorem RetrySettings.defaultsTo :
    DefaultsTo RetrySettings.outline (RetrySettings.ofTree? surplus) .default :=
  defaultsTo_sectionOf? rfl fun _ _ h =>
    h.withDefault_part "topic" (by decide) rfl (RetrySettings.defaultsTo_ofTopicTree? surplus)

theorem KafkaSettings.defaultsTo :
    DefaultsTo KafkaSettings.outline (KafkaSettings.ofTree? surplus) .default :=
  defaultsTo_sectionOf? rfl fun _ _ h => by
    have hbundle := defaultsTo_bundleNameOfTree? surplus
    have hprotocol := defaultsTo_protocolOfTree? surplus
    have hproducer := ProducerSettings.defaultsTo surplus
    have hconsumer := ConsumerSettings.defaultsTo surplus
    have hadmin := AdminSettings.defaultsTo surplus
    have hstreams := StreamsSettings.defaultsTo surplus
    simp (disch := decide) only [h.optional, h.withDefault,
      h.withDefault_part "properties" (by decide) rfl defaultsTo_textMap?,
      h.withDefault_part "ssl" (by decide) rfl hbundle,
      h.withDefault_part "security" (by decide) rfl hprotocol,
      h.withDefault_part "producer" (by decide) rfl hproducer,
      h.withDefault_part "consumer" (by decide) rfl hconsumer,
      h.withDefault_part "admin" (by decide) rfl hadmin,
      h.withDefault_part "streams" (by decide) rfl hstreams,
      h.withDefault_part "jaas" (by decide) rfl (JaasSettings.defaultsTo surplus),
      h.withDefault_part "template" (by decide) rfl (TemplateSettings.defaultsTo surplus),
      h.withDefault_part "retry" (by decide) rfl (RetrySettings.defaultsTo surplus)]

/-! ## MongoDB -/

theorem MongoTlsSettings.defaultsTo :
    DefaultsTo MongoTlsSettings.outline (MongoTlsSettings.ofTree? surplus) .default :=
  defaultsTo_sectionOf? rfl fun _ _ h => by
    simp (disch := decide) only [h.optional, h.withDefault]

theorem MongoSettings.defaultsTo :
    DefaultsTo MongoSettings.outline (MongoSettings.ofTree? surplus) .default :=
  defaultsTo_sectionOf? rfl fun _ _ h => by
    have htls := MongoTlsSettings.defaultsTo surplus
    simp (disch := decide) only [h.optional, h.withDefault,
      h.withDefault_part "ssl" (by decide) rfl htls]

/-! ## The whole configuration -/

theorem TelemetrySettings.defaultsTo :
    DefaultsTo TelemetrySettings.outline (TelemetrySettings.ofTree? surplus) .default :=
  defaultsTo_sectionOf? rfl fun _ _ h => by
    simp (disch := decide) only [h.withDefault]

theorem AppSettings.follows_ofTree? :
    Follows AppSettings.outline (AppSettings.ofTree? surplus) := by
  refine follows_wholeSection? ?_ fun _ _ h => ?_
  · intro name part hname hpart hempty
    obtain rfl : "mongo" = name := Option.some.inj hname
    obtain rfl : .ofOption MongoSettings.outline = part := Option.some.inj hpart
    exact hempty
  · have htls := TlsSettings.defaultsTo surplus
    have hkafka := (KafkaSettings.defaultsTo surplus).follows
    have hmongo := (MongoSettings.defaultsTo surplus).follows
    simp (disch := decide) only [h.required, h.withDefault,
      h.withDefault_part "telemetry" (by decide) rfl (TelemetrySettings.defaultsTo surplus),
      h.withDefault_part "ssl" (by decide) rfl htls,
      h.optional_part "kafka" (by decide) rfl hkafka,
      h.optional_part "mongo" (by decide) rfl hmongo]

/-- Putting in or taking out empty sections and unknown fields does not change what is read, nor whether
anything can be read. -/
theorem AppSettings.ofTree?_of_edits {t t' : Tree}
    (h : Relation.EqvGen (Edit AppSettings.outline) t t') :
    AppSettings.ofTree? surplus t = AppSettings.ofTree? surplus t' :=
  (AppSettings.follows_ofTree? surplus).eq_of_eqvGen h

/-- A bundle without material and a retry section that is only switched on. -/
def terseTree : Tree :=
  .table [("app_name", .text "svc"), ("telemetry", .table []),
    ("ssl", .table [("bundle", .table [("pem", .table [("web", .table [])])])]),
    ("kafka", .table [("retry", .table [("topic", .list [.bool true, .int 5])])])]

/-- The same with the empty parts of bundle and retry section, an unknown field and no section
`telemetry`. -/
def spelledOutTree : Tree :=
  .table [("app_name", .text "svc"),
    ("ssl", .table [("bundle", .table [("pem", .table [("web", .table [("keystore", .table [])])])])]),
    ("kafka", .table [("colour", .text "red"),
      ("retry", .table [("topic", .list [.bool true, .int 5, .table []])])])]

/-- Four edits lead from one tree to the other, and there is something to be read. -/
theorem AppSettings.ofTree?_of_edits_terse :
    AppSettings.ofTree? .refused terseTree = AppSettings.ofTree? .refused spelledOutTree ∧
      (AppSettings.ofTree? .refused terseTree).isSome = true := by
  have hstore : Edit TlsSettings.outline
      (.table [("bundle", .table [("pem", .table [("web", .table [])])])])
      (.table [("bundle", .table [("pem", .table [("web", .table [("keystore", .table [])])])])]) :=
    .field [] [] rfl (.field [] [] rfl (.entry [] [] (.fill [] [] rfl trivial (by decide))))
  have hbackOff : Edit KafkaSettings.outline
      (.table [("retry", .table [("topic", .list [.bool true, .int 5])])])
      (.table [("retry", .table [("topic", .list [.bool true, .int 5, .table []])])]) :=
    .field [] [] rfl (.field [] [] rfl (.extend [.bool true, .int 5] rfl rfl trivial))
  have hcolour : Edit KafkaSettings.outline
      (.table [("retry", .table [("topic", .list [.bool true, .int 5, .table []])])])
      (.table [("colour", .text "red"),
        ("retry", .table [("topic", .list [.bool true, .int 5, .table []])])]) :=
    .unknown [] _ (by decide)
  refine ⟨AppSettings.ofTree?_of_edits .refused ?_, by decide⟩
  refine .trans _ _ _ (.symm _ _ (.rel _ _ (.fill [_] _ rfl trivial (by decide)))) ?_
  refine .trans _ _ _ (.rel _ _ (.field [_] _ rfl hstore)) ?_
  refine .trans _ _ _ (.rel _ _ (.field [_, _] _ rfl (.present hbackOff))) ?_
  exact .rel _ _ (.field [_, _] _ rfl (.present hcolour))

/-- A section `kafka` that is empty is not the same as none. -/
example : AppSettings.ofTree? .refused (.table [("app_name", .text "svc"), ("kafka", .table [])]) ≠
    AppSettings.ofTree? .refused (.table [("app_name", .text "svc")]) := by
  decide

end ClientWiring
