import ClientWiring.Inspect

/-!
# The report of an assembly

An assembly takes its steps in a fixed order, one for each component, and reports for each whether
it created the component or skipped it.
-/

namespace ClientWiring.Kafka

/-- The components of an assembly. -/
inductive Component where
  | connectionDetails
  | jaasInitializer
  | producerListener
  | producerFactory
  | consumerFactory
  | template
  | transactionManager
  | admin
  | retryTopics
deriving DecidableEq, Repr

/-- The name of a component in reports and counters. -/
def Component.name : Component → String
  | connectionDetails => "connection_details"
  | jaasInitializer => "jaas_initializer"
  | producerListener => "producer_listener"
  | producerFactory => "producer_factory"
  | consumerFactory => "consumer_factory"
  | template => "template"
  | transactionManager => "transaction_manager"
  | admin => "admin"
  | retryTopics => "retry_topic_configuration"

/-- The components in the order of the assembly. -/
def Component.inOrder : List Component :=
  [connectionDetails, jaasInitializer, producerListener, producerFactory, consumerFactory, template,
   transactionManager, admin, retryTopics]

/-- How a step ended. -/
inductive Outcome where
  | created
  | skipped
deriving DecidableEq, Repr

/-- The name of an outcome in reports and counters. -/
def Outcome.name : Outcome → String
  | created => "created"
  | skipped => "skipped"

/-- One step of an assembly. -/
structure Step where
  component : Component
  outcome : Outcome
deriving DecidableEq, Repr

/-- The steps of an assembly, in order. -/
abbrev Report := List Step

/-- The outcome of the first step for the component of this name. -/
def Report.outcome? (report : Report) (name : String) : Option Outcome :=
  (report.find? fun step => step.component.name = name).map Step.outcome

/-! ## Texts for people -/

open Inspect

instance : Inspect Outcome := ⟨fun
  | .created => "Created"
  | .skipped => "Skipped"⟩

instance : Inspect Step := ⟨fun s => record "StepReport"
  [field "component" (inspect s.component.name), field "outcome" (inspect s.outcome)]⟩

end ClientWiring.Kafka
