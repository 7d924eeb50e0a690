import ClientWiring.Proofs.Tree.Alike
import ClientWiring.Settings.App

/-!
# Settings and the content of a tree

Every section of the configuration looks its fields up by name and reads them strictly, so what is
read, or that nothing can be read, depends on what stands at each path of the tree and on nothing
else:

    Alike t t' → AppSettings.ofTree? surplus t = AppSettings.ofTree? surplus t'
                                                                    (AppSettings.respects_ofTree?)

Each section has one lemma, from those of the readings of its fields.
-/

namespace ClientWiring

open ClientWiring.Tree

variable (surplus : Surplus)

/-! ## TLS bundles -/

theorem Tree.respects_secret? : Respects secret? := respects_of_tables fun _ _ _ => rfl

theorem PemStoreSettings.respects_ofTree? : Respects (PemStoreSettings.ofTree? surplus) :=
  respects_section fun _ _ h => by
    simp only [h.optional respects_text?, h.optional respects_secret?]

theorem TlsOptionSettings.respects_ofTree? : Respects (TlsOptionSettings.ofTree? surplus) :=
  respects_section fun _ _ h => by
    simp only [h.optional respects_texts?]

theorem PemBundleSettings.respects_ofTree? : Respects (PemBundleSettings.ofTree? surplus) :=
  respects_section fun _ _ h => by
    simp only [h.withDefault (PemStoreSettings.respects_ofTree? surplus),
      h.withDefault (TlsOptionSettings.respects_ofTree? surplus), h.optional respects_text?,
      h.withDefault respects_bool?]

theorem TlsSettings.respects_ofBundleTree? : Respects (TlsSettings.ofBundleTree? surplus) :=
  respects_section fun _ _ h => by
    simp only [h.withDefault (respects_mapOf? (PemBundleSettings.respects_ofTree? surplus))]

theorem TlsSettings.respects_ofTree? : Respects (TlsSettings.ofTree? surplus) :=
  respects_section fun _ _ h =>
    h.withDefault (TlsSettings.respects_ofBundleTree? surplus) "bundle" .default

/-! ## Kafka -/

theorem respects_bundleNameOfTree? : Respects (bundleNameOfTree? surplus) :=
  respects_section fun _ _ h => h.optional respects_text? "bundle"

theorem respects_protocolOfTree? : Respects (protocolOfTree? surplus) :=
  respects_section fun _ _ h => h.optional respects_text? "protocol"

/-- What the four roles have in common is read from the fields of the role itself. -/
theorem RoleSettings.ofFields?_alike {fields fields' : Fields}
    (h : Alike (table fields) (table fields')) :
    RoleSettings.ofFields? surplus fields = RoleSettings.ofFields? surplus fields' := by
  simp only [RoleSettings.ofFields?, h.optional respects_texts?, h.optional respects_text?,
    h.withDefault (respects_bundleNameOfTree? surplus),
    h.withDefault (respects_protocolOfTree? surplus), h.withDefault respects_textMap?]

theorem ProducerSettings.respects_ofTree? : Respects (ProducerSettings.ofTree? surplus) :=
  respects_section fun _ _ h => by
    simp only [RoleSettings.ofFields?_alike surplus h, h.optional respects_text?,
      h.optional respects_uint64?, h.optional respects_uint32?]

theorem ConsumerSettings.respects_ofTree? : Respects (ConsumerSettings.ofTree? surplus) :=
  respects_section fun _ _ h => by
    simp only [RoleSettings.ofFields?_alike surplus h, h.optional respects_text?,
      h.optional respects_uint64?, h.optional respects_bool?]

theorem AdminSettings.respects_ofTree? : Respects (AdminSettings.ofTree? surplus) :=
  respects_section fun _ _ h => by
    simp only [RoleSettings.ofFields?_alike surplus h, h.optional respects_uint64?,
      h.withDefault respects_bool?]

theorem StreamsSettings.respects_ofTree? : Respects (StreamsSettings.ofTree? surplus) :=
  respects_section fun _ _ h => by
    simp only [RoleSettings.ofFields?_alike surplus h, h.optional respects_text?]

theorem JaasSettings.respects_ofTree? : Respects (JaasSettings.ofTree? surplus) :=
  respects_section fun _ _ h => by
    simp only [h.withDefault respects_bool?, h.optional respects_text?,
      h.withDefault respects_textMap?]

theorem TemplateSettings.respects_ofTree? : Respects (TemplateSettings.ofTree? surplus) :=
  respects_section fun _ _ h => by
    simp only [h.optional respects_text?, h.optional respects_bool?]

theorem BackOffSettings.respects_ofTree? : Respects (BackOffSettings.ofTree? surplus) :=
  respects_section fun _ _ h => by
    simp only [h.withDefault (respects_nullable? respects_uint64?), h.optional respects_uint64?,
      h.optional respects_double?, h.optional respects_bool?]

theorem RetrySettings.respects_ofTopicTree? : Respects (RetrySettings.ofTopicTree? surplus) :=
  respects_section fun _ _ h => by
    simp only [h.withDefault respects_bool?, h.withDefault respects_uint32?,
      h.withDefault (BackOffSettings.respects_ofTree? surplus)]

theorem RetrySettings.respects_ofTree? : Respects (RetrySettings.ofTree? surplus) :=
  respects_section fun _ _ h =>
    h.withDefault (RetrySettings.respects_ofTopicTree? surplus) "topic" .default

theorem KafkaSettings.respects_ofTree? : Respects (KafkaSettings.ofTree? surplus) :=
  respects_section fun _ _ h => by
    simp only [h.withDefault respects_texts?, h.optional respects_text?,
      h.withDefault respects_textMap?, h.withDefault (respects_bundleNameOfTree? surplus),
      h.withDefault (respects_protocolOfTree? surplus),
      h.withDefault (ProducerSettings.respects_ofTree? surplus),
      h.withDefault (ConsumerSettings.respects_ofTree? surplus),
      h.withDefault (AdminSettings.respects_ofTree? surplus),
      h.withDefault (StreamsSettings.respects_ofTree? surplus),
      h.withDefault (JaasSettings.respects_ofTree? surplus),
      h.withDefault (TemplateSettings.respects_ofTree? surplus),
      h.withDefault (RetrySettings.respects_ofTree? surplus)]

/-! ## MongoDB -/

/-- The name of a representation may stand alone, as a field without a value. -/
theorem UuidRepresentation.respects_ofTree? : Respects UuidRepresentation.ofTree? := by
  refine respects_of_tables fun fields fields' h => ?_
  have hsame : ∀ name, fields = [(name, .null)] ↔ fields' = [(name, .null)] := fun name =>
    ⟨fun hfields => (hfields ▸ h).eq_single rfl, fun hfields' => (hfields' ▸ h.symm).eq_single rfl⟩
  by_cases hsingle : ∃ name, fields = [(name, .null)]
  · obtain ⟨name, hname⟩ := hsingle
    rw [hname, (hsame name).mp hname]
  · have hnone : ∀ {fs : Fields}, (¬ ∃ name, fs = [(name, .null)]) →
        UuidRepresentation.ofTree? (.table fs) = none := by
      intro fs hfs
      unfold UuidRepresentation.ofTree?
      split
      · next htext => cases htext
      · next name htable => exact absurd ⟨name, Tree.table.inj htable⟩ hfs
      · rfl
    rw [hnone hsingle, hnone fun ⟨name, hname⟩ => hsingle ⟨name, (hsame name).mpr hname⟩]

theorem MongoTlsSettings.respects_ofTree? : Respects (MongoTlsSettings.ofTree? surplus) :=
  respects_section fun _ _ h => by
    simp only [h.withDefault respects_bool?, h.optional respects_text?]

theorem MongoSettings.respects_ofTree? : Respects (MongoSettings.ofTree? surplus) :=
  respects_section fun _ _ h => by
    simp only [h.optional respects_secret?, h.optional respects_text?,
      h.optional respects_uint16?, h.withDefault respects_texts?,
      h.withDefault UuidRepresentation.respects_ofTree?,
      h.withDefault (MongoTlsSettings.respects_ofTree? surplus)]

/-! ## The whole configuration -/

theorem TelemetrySettings.respects_ofTree? : Respects (TelemetrySettings.ofTree? surplus) :=
  respects_section fun _ _ h => by
    simp only [h.withDefault respects_text?]

/-- Trees with the same content are read as the same configuration, or neither can be read. -/
theorem AppSettings.respects_ofTree? : Respects (AppSettings.ofTree? surplus) :=
  respects_wholeSection fun _ _ h => by
    simp only [h.required respects_text?, h.withDefault respects_text?,
      h.withDefault (TelemetrySettings.respects_ofTree? surplus),
      h.withDefault (TlsSettings.respects_ofTree? surplus),
      h.optional (KafkaSettings.respects_ofTree? surplus),
      h.optional (MongoSettings.respects_ofTree? surplus)]

end ClientWiring
