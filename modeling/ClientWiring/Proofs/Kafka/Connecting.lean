import ClientWiring.Proofs.Kafka.RoleEntries

/-!
# What connecting changes

Servers and protocol reach the entries of a role twice: as its typed settings, and through its endpoint
when the client is connected.  The two fall back to the common settings by different rules.  Typed
settings are written one over the other, and an empty protocol is not written; the endpoint takes the
first that is set, and only then asks whether it is empty:

    role      common     entries    endpoint    written
    none      "SSL"      "SSL"      "SSL"       "SSL"
    ""        "SSL"      "SSL"      ""          nothing
    ""        none       none       ""          nothing

So connecting changes neither of the two entries, unless an entry that was given as it is got in
between; and it changes no other entry at all                              (connect_leaves_entries).
-/

namespace ClientWiring.Kafka

open Client (serversKey protocolKey nonEmpty joinServers)

namespace Role

theorem firstEntry_tuning_serversKey (s : KafkaSettings) (role : Role) :
    firstEntry serversKey (role.tuning s).reverse = none := by
  cases role <;> simp [tuning, producerTuning, consumerTuning, firstEntry_cons, serversKey]

/-- The servers of a role before it is connected. -/
theorem get?_client_serversKey (s : KafkaSettings) (role : Role) :
    (role.client s).get? serversKey =
      ((role.settings s).properties.get? serversKey).or
        (((role.settings s).bootstrapServers.map joinServers).or
          ((commonClient s).get? serversKey)) := by
  have hsp : serversKey ≠ protocolKey := by decide
  have hsc : serversKey ≠ Client.clientIdKey := by decide
  unfold client
  rw [Client.get?_setAll, Client.get?_overlaid, firstEntry_tuning_serversKey, Option.none_or,
    Client.get?_setProtocol, if_neg hsp, Client.get?_setSome, if_neg hsc, Client.get?_setSome,
    if_pos rfl]

section

variable {s : KafkaSettings} {role : Role}

/-- The typed servers are those of the endpoint. -/
theorem get?_client_serversKey_of_typed (hcommon : s.properties.get? serversKey = none)
    (hown : (role.settings s).properties.get? serversKey = none) :
    (role.client s).get? serversKey =
      some (joinServers ((role.settings s).bootstrapServers.getD s.bootstrapServers)) := by
  have hsp : serversKey ≠ protocolKey := by decide
  rw [get?_client_serversKey, get?_commonClient, hcommon, hown, Option.none_or, Option.none_or,
    if_neg hsp, if_pos rfl]
  cases (role.settings s).bootstrapServers <;> rfl

/-- The typed protocol is the own one, or else the common one, each unless it is empty. -/
theorem get?_client_protocolKey_of_typed (hcommon : s.properties.get? protocolKey = none)
    (hown : (role.settings s).properties.get? protocolKey = none) :
    (role.client s).get? protocolKey =
      (nonEmpty (role.settings s).securityProtocol).or (nonEmpty s.securityProtocol) := by
  have hps : protocolKey ≠ serversKey := by decide
  rw [get?_client s role protocolKey hps, get?_commonClient, hcommon, hown, Option.none_or,
    Option.none_or, if_pos rfl, if_pos rfl]

end

end Role

/-- The protocol of the endpoint, if there is one to write, is the one that was written before. -/
theorem nonEmpty_or_of_written (own common : Option String) :
    (nonEmpty (own.or common)).or ((nonEmpty own).or (nonEmpty common)) =
      (nonEmpty own).or (nonEmpty common) := by
  cases own with
  | none =>
    rw [Option.none_or]
    show (nonEmpty common).or (nonEmpty common) = nonEmpty common
    exact Option.or_self
  | some p =>
    rw [Option.some_or, ← Option.or_assoc, Option.or_self]

/-- Connecting a role to its endpoint leaves every entry as it is, apart from servers and protocol; and
these two as well when no entry that was given as it is stands for them. -/
theorem connect_leaves_entries {registry : Option Tls.Registry} {s : KafkaSettings} {e : Endpoints}
    (h : Endpoints.ofSettings registry s = .ok e) (role : Role) (key : String) :
    (key ≠ serversKey → key ≠ protocolKey →
      ((role.client s).connect (e.of role)).get? key = (role.client s).get? key) ∧
    (key = serversKey ∨ key = protocolKey → s.properties.get? key = none →
      (role.settings s).properties.get? key = none →
      ((role.client s).connect (e.of role)).get? key = (role.client s).get? key) := by
  constructor
  · intro hservers hprotocol
    rw [Client.get?_connect, if_neg hservers, if_neg hprotocol]
  · rw [Client.get?_connect, Endpoints.of_of_ofSettings h]
    rintro (rfl | rfl) hcommon hown
    · rw [if_pos rfl, Role.get?_client_serversKey_of_typed hcommon hown]
      rfl
    · have hps : protocolKey ≠ serversKey := by decide
      rw [if_neg hps, if_pos rfl, Role.get?_client_protocolKey_of_typed hcommon hown]
      exact nonEmpty_or_of_written _ _

/-- A producer without servers and with an empty protocol, over a common protocol. -/
def emptiedSettings : KafkaSettings :=
  { KafkaSettings.default with
    securityProtocol := some "SSL"
    producer := { ProducerSettings.default with
      role := { RoleSettings.default with
        bootstrapServers := some [], securityProtocol := some "" } } }

/-- No servers are what the role says, and its empty protocol gives way to the common one. -/
theorem connect_leaves_entries_emptied :
    ∃ e, Endpoints.ofSettings none emptiedSettings = .ok e ∧
      (e.of .producer).protocol = some "" ∧
      ((Role.producer.client emptiedSettings).connect (e.of .producer)).get? serversKey = some "" ∧
      ((Role.producer.client emptiedSettings).connect (e.of .producer)).get? protocolKey =
        some "SSL" ∧
      ((Role.producer.client emptiedSettings).connect (e.of .producer)).get? "acks" = none := by
  obtain ⟨e, he⟩ : ∃ e, Endpoints.ofSettings none emptiedSettings = .ok e := ⟨_, rfl⟩
  have hservers := (connect_leaves_entries he .producer serversKey).2 (.inl rfl) rfl rfl
  have hprotocol := (connect_leaves_entries he .producer protocolKey).2 (.inr rfl) rfl rfl
  have hother := (connect_leaves_entries he .producer "acks").1 (by decide) (by decide)
  refine ⟨e, he, by cases he; rfl, hservers.trans ?_, hprotocol.trans ?_, hother.trans ?_⟩
  all_goals decide

end ClientWiring.Kafka
