import ClientWiring.Duration
import ClientWiring.Kafka.ProducerFactory

/-!
# Transaction managers

A transaction manager begins transactions over a producer factory, which has to be transactional.
Every transaction has a producer and an id of its own.
-/

namespace ClientWiring.Kafka

/-- A manager of transactions over a factory. -/
structure TransactionManager where
  factory : ProducerFactory
  timeout : Duration
deriving DecidableEq

namespace TransactionManager

/-- The manager over a factory, which must be transactional. -/
def ofFactory (factory : ProducerFactory) : Except AppError TransactionManager :=
  if factory.isTransactional then .ok ⟨factory, .ofSeconds 30⟩ else .error .notTransactional

/-- Begins a transaction with a producer of its own. -/
def begin (around : Surroundings) (m : TransactionManager) : Logged Unit × TransactionManager :=
  let (attempt, factory) := m.factory.attempt around none
  let prepared := attempt.prepared around
  (⟨prepared.answer.bind fun _ => around.library.begin, prepared.log⟩, { m with factory })

/-! ## Texts for people -/

open Inspect

instance : Inspect TransactionManager := ⟨fun m => record "KafkaTransactionManager"
  [field "transaction_id_prefix" (inspect m.factory.transactionIdPrefix),
   field "timeout" (inspect m.timeout)]⟩

end TransactionManager

end ClientWiring.Kafka
