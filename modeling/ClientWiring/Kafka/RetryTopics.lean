import ClientWiring.Kafka.BackOff
import ClientWiring.Kafka.Template

/-!
# Chains of retry topics

A message that cannot be processed goes through retry topics, one for each further attempt, and at
last to the dead-letter topic.  Retry topics can be shared at the end of the chain, where all pauses
are the same: then the last of the remaining topics stands for all of them.
-/

namespace ClientWiring.Kafka

/-- What a topic of a chain is for. -/
inductive DestinationKind where
  | retry
  | deadLetter
deriving DecidableEq, Repr

/-- The name of a purpose. -/
def DestinationKind.name : DestinationKind → String
  | retry => "Retry"
  | deadLetter => "Dlt"

/-- A topic of a chain. -/
structure Destination where
  name : String
  delay : Duration
  kind : DestinationKind
deriving DecidableEq

/-- How chains of retry topics are made. -/
structure RetryTopics where
  /-- The number of attempts in all, the first included. -/
  maxAttempts : UInt32
  backOff : BackOff
  /-- Whether attempts with the same pause share a topic at the end. -/
  singleTopic : Bool
  /-- Whether topics are numbered; otherwise they are named for their pause. -/
  indexSuffix : Bool
  autoCreate : Bool
  template : Template

namespace RetryTopics

/-- Three attempts, one second apart, over a template. -/
def new (template : Template) : RetryTopics :=
  { maxAttempts := 3, backOff := .sleeping (.ofDelay (.ofSeconds 1)), singleTopic := false,
    indexSuffix := false, autoCreate := true, template }

/-- The chains that settings describe: topics shared, numbered, and not created here. -/
def ofSettings (s : RetrySettings) (template : Template) : RetryTopics :=
  { maxAttempts := s.attempts, backOff := .ofSettings s.backOff, singleTopic := true,
    indexSuffix := true, autoCreate := false, template }

/-- The pauses before all attempts but the first. -/
def delays (r : RetryTopics) : List Duration :=
  (List.range (r.maxAttempts.toNat - 1)).map fun i => r.backOff.interval (UInt32.ofNat i)

/-- The pauses up to the first from which on all are the same. -/
def sharedEnd : List Duration → List Duration
  | [] => []
  | d :: rest => if rest.all (· = d) then [d] else d :: sharedEnd rest

/-- The pauses of the retry topics. -/
def retryDelays (r : RetryTopics) : List Duration :=
  if r.singleTopic then sharedEnd r.delays else r.delays

/-- The tail of the name of a retry topic, one of `count`. -/
def retrySuffix (indexSuffix : Bool) (count index : Nat) (delay : Duration) : String :=
  if count = 1 then "-retry"
  else if indexSuffix then "-retry-" ++ index.repr
  else "-retry-" ++ delay.toMillis.repr

/-- The tail of the name of the dead-letter topic. -/
def deadLetterSuffix : String := "-dlt"

/-- A retry topic of a chain. -/
def retryDestination (r : RetryTopics) (mainTopic : String) (count : Nat) (delay : Duration)
    (index : Nat) : Destination :=
  ⟨mainTopic ++ retrySuffix r.indexSuffix count index delay, delay, .retry⟩

/-- The last topic of a chain. -/
def deadLetter (mainTopic : String) : Destination :=
  ⟨mainTopic ++ deadLetterSuffix, .zero, .deadLetter⟩

/-- The chain of a topic. -/
def destinations (r : RetryTopics) (mainTopic : String) : List Destination :=
  let delays := r.retryDelays
  delays.mapIdx (fun index delay => r.retryDestination mainTopic delays.length delay index) ++
    [deadLetter mainTopic]

/-! ## Texts for people -/

open Inspect

instance : Inspect RetryTopics := ⟨fun r => record "RetryTopicConfiguration"
  [field "max_attempts" (inspect r.maxAttempts), field "back_off" (inspect r.backOff),
   field "single_topic_for_same_intervals" (inspect r.singleTopic),
   field "suffix_with_index_values" (inspect r.indexSuffix),
   field "auto_create_topics" (inspect r.autoCreate), field "template" (inspect r.template)]⟩

end RetryTopics

end ClientWiring.Kafka
