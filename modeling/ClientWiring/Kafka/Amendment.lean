import ClientWiring.Kafka.ConsumerFactory
import ClientWiring.Kafka.Customizer
import ClientWiring.Kafka.ProducerFactory

/-!
# Changes of entries given as data

An amendment drops entries, then sets some, then sets others where there is none yet.  It changes
the entries of a client, and with it those of a factory.
-/

namespace ClientWiring.Kafka

/-- A change of entries. -/
structure Amendment where
  dropped : List String
  set : SortedMap String
  setIfNew : SortedMap String

namespace Amendment

/-- Changes the entries of a client. -/
def apply (a : Amendment) (c : Client) : Client :=
  let c := (a.dropped.foldl Client.erase c).setAll a.set
  a.setIfNew.pairs.foldl (fun c p => c.setIfNew p.1 p.2) c

/-- Changes the entries of a producer factory. -/
def applyToProducers (a : Amendment) (f : ProducerFactory) : ProducerFactory :=
  { f with client := a.apply f.client }

/-- Changes the entries of a consumer factory. -/
def applyToConsumers (a : Amendment) (f : ConsumerFactory) : ConsumerFactory :=
  ⟨a.apply f.client⟩

end Amendment

end ClientWiring.Kafka
