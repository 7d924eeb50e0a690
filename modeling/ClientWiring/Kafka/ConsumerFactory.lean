import ClientWiring.Kafka.Client

/-!
# Consumer factories

A factory makes consumers from one configuration; only the group may differ from consumer to
consumer.
-/

namespace ClientWiring.Kafka

/-- A factory of consumers. -/
structure ConsumerFactory where
  client : Client
deriving DecidableEq

namespace ConsumerFactory

/-- The entry that switches automatic commits. -/
def autoCommitKey : String := "enable.auto.commit"

/-- The entry for the group. -/
def groupKey : String := "group.id"

/-- Whether consumers commit on their own, which they do unless told otherwise. -/
def commitsAutomatically (f : ConsumerFactory) : Bool :=
  match f.client.get? autoCommitKey with
  | some value => Text.sameLetters value "true"
  | none => true

/-- Makes a consumer, in a group of the caller if one is given. -/
def create (around : Surroundings) (f : ConsumerFactory) (group : Option String) : Logged Unit :=
  f.client.make around [(groupKey, group)] .consumerRefused

/-! ## Texts for people -/

open Inspect

instance : Inspect ConsumerFactory := ⟨fun f =>
  record "DefaultConsumerFactory" [field "properties" (inspect f.client)]⟩

end ConsumerFactory

end ClientWiring.Kafka
