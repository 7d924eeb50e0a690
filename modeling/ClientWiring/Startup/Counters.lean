import ClientWiring.Kafka.Report
import ClientWiring.SortedMap

/-!
# Counters of start-up

Start-up counts each component that it created or skipped.  Counters are kept as the list of their
increments; `lines` sums them up, one line for each pair of component and outcome.
-/

namespace ClientWiring.Startup

/-- The components that start-up counts. -/
inductive Component where
  | tlsBundles
  | kafka (component : Kafka.Component)
  | mongoDetails
  | mongoSettings
deriving DecidableEq, Repr

/-- The name of a component in counters. -/
def Component.name : Component → String
  | tlsBundles => "ssl_bundles"
  | kafka component => component.name
  | mongoDetails => "mongo_connection_details"
  | mongoSettings => "mongo_client_settings"

/-- One increment of a counter. -/
structure Increment where
  component : Component
  outcome : Kafka.Outcome
deriving DecidableEq, Repr

namespace Increment

/-- The name of all counters. -/
def counterName : String := "autoconf_components_total"

/-- A counter with its labels. -/
def label (i : Increment) : String :=
  counterName ++ "\x7bcomponent=\"" ++ i.component.name ++ "\",outcome=\"" ++ i.outcome.name ++
    "\"\x7d"

/-- The increments for the steps of an assembly. -/
def ofReport (report : Kafka.Report) : List Increment :=
  report.map fun step => ⟨.kafka step.component, step.outcome⟩

/-- Adds an increment to the sums. -/
def addTo (sums : SortedMap Nat) (i : Increment) : SortedMap Nat :=
  sums.insert i.label ((sums.get? i.label).getD 0 + 1)

/-- The sums of increments, by counter. -/
def sums (increments : List Increment) : SortedMap Nat := increments.foldl addTo .empty

/-- The counters with their values, one line each, in ascending order. -/
def lines (increments : List Increment) : List String :=
  (sums increments).pairs.map fun p => p.1 ++ " " ++ p.2.repr

end Increment

end ClientWiring.Startup
