import ClientWiring.Log
import ClientWiring.Inspect

/-!
# Listeners for sent messages

A template tells its listener how each send ended.  The listener of this library writes failures to
the log, with or without the key of the message; any other listener belongs to the caller and leaves
the log alone.
-/

namespace ClientWiring.Kafka

/-- What a listener is told about one send. -/
inductive SendReport where
  | sent (topic : String)
  | failed (topic : String) (key : Option String) (error : String)
deriving DecidableEq, Repr

/-- The report on a send that ended so. -/
def SendReport.ofAnswer (topic : String) (key : Option String) : Except AppError Unit → SendReport
  | .ok () => .sent topic
  | .error e => .failed topic key e.message

/-- Who is told. -/
inductive Listener where
  /-- Writes failures to the log. -/
  | logging (includeContents : Bool)
  /-- A listener of the caller. -/
  | supplied (name : String)
deriving DecidableEq, Repr

namespace Listener

/-- Failures are written to the log with the key. -/
def default : Listener := .logging true

/-- The fields of the log entry for a failure. -/
def failureFields (includeContents : Bool) (topic : String) (key : Option String)
    (error : String) : List (String × String) :=
  if includeContents then [("topic", topic), ("key", inspect key), ("error", error)]
  else [("topic", topic), ("error", error)]

/-- What a listener writes to the log. -/
def log : Listener → SendReport → List LogEntry
  | .logging includeContents, .failed topic key error =>
    [.event .error "Exception thrown when sending a message"
      (failureFields includeContents topic key error)]
  | _, _ => []

end Listener

end ClientWiring.Kafka
