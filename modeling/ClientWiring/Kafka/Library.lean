import ClientWiring.Error
import ClientWiring.FileSystem
import ClientWiring.SortedMap

/-!
# What lies outside of the Kafka clients

Making a client and talking to a broker is the work of a client library.  This library only needs to
know what it refuses, and the reasons that it gives.  `offline` is a library without a broker in
reach.
-/

namespace ClientWiring.Kafka

/-- The answers of the client library: the reason why something is refused, if it is. -/
structure Library where
  /-- Whether a client can have a configuration. -/
  refusal? : SortedMap String → Option String
  /-- Whether a producer can be prepared for transactions. -/
  prepareRefusal? : Option String
  /-- Whether a transaction can be begun. -/
  beginRefusal? : Option String
  /-- Whether a message arrives. -/
  sendRefusal? : Option String
  /-- Whether a transaction can be committed. -/
  commitRefusal? : Option String
  /-- Whether a transaction can be aborted. -/
  abortRefusal? : Option String
  /-- Whether messages on their way can be waited for. -/
  flushRefusal? : Option String
  /-- The reason why topics are not created. -/
  topicsReason : String
  /-- Whether a client is closed within so many seconds. -/
  closesWithin : UInt64 → Bool

namespace Library

/-- An answer of the library; `refused` words a refusal. -/
def accept (refusal? : Option String) (refused : String → AppError) : Except AppError Unit :=
  match refusal? with
  | none => .ok ()
  | some reason => .error (refused reason)

/-- Prepares a producer for transactions. -/
def prepare (l : Library) : Except AppError Unit := accept l.prepareRefusal? .transactionsRefused

/-- Begins a transaction. -/
def begin (l : Library) : Except AppError Unit := accept l.beginRefusal? .beginRefused

/-- Sends a message to a topic. -/
def send (l : Library) (topic : String) : Except AppError Unit :=
  accept l.sendRefusal? (.sendFailed topic)

/-- Commits a transaction. -/
def commit (l : Library) : Except AppError Unit := accept l.commitRefusal? .commitRefused

/-- Aborts a transaction. -/
def abort (l : Library) : Except AppError Unit := accept l.abortRefusal? .abortRefused

end Library

/-- What a client meets when it is made and used. -/
structure Surroundings where
  files : FileSystem
  library : Library

/-- The name of an entry that the library does not know. -/
def unknownEntry : String := "no.such"

/-- A library that refuses the unknown entry and never reaches a broker. -/
def Library.offline : Library where
  refusal? config :=
    if config.contains unknownEntry then
      some ("No such configuration property: \"" ++ unknownEntry ++ "\"")
    else none
  prepareRefusal? := some "Local: Timed out"
  beginRefusal? := some "Local: Functionality not configured"
  sendRefusal? := some "Broker: Message size too large"
  commitRefusal? := some "Local: Functionality not configured"
  abortRefusal? := some "Local: Functionality not configured"
  flushRefusal? := none
  topicsReason := "Local: Timed out"
  closesWithin seconds := 0 < seconds

/-- The surroundings of files and no broker. -/
def Surroundings.offline (files : FileSystem) : Surroundings := ⟨files, .offline⟩

end ClientWiring.Kafka
