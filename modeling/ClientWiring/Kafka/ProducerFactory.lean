import ClientWiring.Kafka.Client

/-!
# Producer factories

A factory makes producers from one configuration.  A factory with a prefix is transactional: each
producer gets an id of its own, the prefix followed by the number of ids that the factory issued
before.  The number goes up whatever prefix an id has, and whether or not the producer can be made.
-/

namespace ClientWiring.Kafka

/-- Where a component comes from: from the assembly, or from the caller, whose components are told
apart by a number. -/
inductive Origin where
  | assembled
  | supplied (number : Nat)
deriving DecidableEq, Repr

/-- A factory with the number of ids that it issued. -/
structure ProducerFactory where
  origin : Origin
  client : Client
  transactionIdPrefix : Option String
  issued : UInt64
deriving DecidableEq

/-- An attempt to get a producer ready: how it ended, and the id that it took, if any. -/
structure Attempt extends Logged Unit where
  id : Option String

namespace Attempt

/-- The attempt after the producer was prepared for transactions. -/
def prepared (around : Surroundings) (a : Attempt) : Attempt :=
  { a with answer := a.answer.bind fun _ => around.library.prepare }

/-- Why the producer is not ready, if it is not. -/
def fault? (a : Attempt) : Option AppError :=
  match a.answer with
  | .ok () => none
  | .error e => some e

end Attempt

namespace ProducerFactory

/-- A factory that is not transactional and has issued nothing. -/
def new (origin : Origin) (client : Client) : ProducerFactory := ⟨origin, client, none, 0⟩

/-- Whether producers of the factory are transactional. -/
def isTransactional (f : ProducerFactory) : Bool := f.transactionIdPrefix.isSome

/-- The id with a prefix, and the factory after it was issued. -/
def issue (f : ProducerFactory) (idPrefix : String) : String × ProducerFactory :=
  (idPrefix ++ f.issued.toNat.repr, { f with issued := f.issued + 1 })

/-- The next id for a prefix of the caller, or else for the prefix of the factory; there is none
without a prefix. -/
def allocate (f : ProducerFactory) (own : Option String) : Option String × ProducerFactory :=
  match own.or f.transactionIdPrefix with
  | none => (none, f)
  | some idPrefix =>
    let (id, next) := f.issue idPrefix
    (some id, next)

/-- The entry for the id. -/
def transactionalIdKey : String := "transactional.id"

/-- Tries to make a producer with an id for a prefix of the caller or of the factory. -/
def attempt (around : Surroundings) (f : ProducerFactory) (own : Option String) :
    Attempt × ProducerFactory :=
  let (id, next) := f.allocate own
  ({ f.client.make around [(transactionalIdKey, id)] .producerRefused with id }, next)

/-- Makes a producer, whose id is not looked at. -/
def create (around : Surroundings) (f : ProducerFactory) (own : Option String) :
    Logged Unit × ProducerFactory :=
  let (attempt, next) := f.attempt around own
  (attempt.toLogged, next)

/-! ## Texts for people -/

open Inspect

instance : Inspect ProducerFactory := ⟨fun f => record "DefaultProducerFactory"
  [field "properties" (inspect f.client),
   field "transaction_id_prefix" (inspect f.transactionIdPrefix),
   field "transaction_counter" (inspect f.issued)]⟩

end ProducerFactory

end ClientWiring.Kafka
