import ClientWiring.Duration
import ClientWiring.Json.Printer
import ClientWiring.Kafka.Listener
import ClientWiring.Kafka.ProducerFactory

/-!
# Templates for sending

A template sends over one producer, which its factory makes at the first send and which is kept once
it is ready: made, and prepared for transactions if the template is transactional.  An attempt that
fails leaves the template ready for another one, but an id that it took is gone.  The listener hears
of a send only when there was a producer to send with.
-/

namespace ClientWiring.Kafka

/-- A conversion of a message to its payload. -/
structure Converter where
  convert : Tree → Except AppError String

/-- The payload is the JSON text of the message. -/
def Converter.json : Converter := ⟨fun message => .ok (Json.print message)⟩

/-- A sender of messages. -/
structure Template where
  origin : Origin
  factory : ProducerFactory
  listener : Listener
  converter : Option Converter
  defaultTopic : Option String
  /-- Takes the place of the prefix of the factory. -/
  transactionIdPrefix : Option String
  observed : Bool
  timeout : Duration
  /-- Whether a producer is kept. -/
  hasProducer : Bool

/-- A message, or the reason why it has no JSON form. -/
abbrev Message := Except String Tree

/-- How a step with a template ended, the attempt to make a producer, if there was one, what was
written to the log, what the listener was told, and the template after the step. -/
structure Sending where
  answer : Except AppError Unit
  attempt : Option Attempt
  log : List LogEntry
  reports : List SendReport
  template : Template

/-! ## Transactions -/

namespace Library

/-- Ends a transaction that failed. -/
def abortAfter (l : Library) (cause : AppError) : Logged Unit :=
  match l.abort with
  | .ok () => .silent (.error cause)
  | .error abort =>
    { answer := .error (.abortFailed cause.message abort.message)
      log := [.event .error "Failed to abort Kafka transaction"
        [("error", abort.message), ("cause", cause.message)]] }

/-- Sends to a topic in a transaction. -/
def sendInTransaction (l : Library) (topic : String) : Logged Unit :=
  match l.begin with
  | .error e => .silent (.error e)
  | .ok () =>
    match (l.send topic).bind fun _ => l.commit with
    | .ok () => .silent (.ok ())
    | .error cause => l.abortAfter cause

end Library

namespace Template

/-- A template over a factory, with the defaults for everything else. -/
def new (origin : Origin) (factory : ProducerFactory) : Template :=
  { origin, factory, listener := .default, converter := none, defaultTopic := none,
    transactionIdPrefix := none, observed := false, timeout := .ofSeconds 30,
    hasProducer := false }

/-- Whether sends are transactions. -/
def isTransactional (t : Template) : Bool :=
  t.transactionIdPrefix.isSome || t.factory.isTransactional

/-- The payload of a message. -/
def payload (t : Template) (message : Message) : Except AppError String :=
  match message with
  | .error reason => .error (.unserializable reason)
  | .ok tree => (t.converter.getD .json).convert tree

/-- Gets the producer ready: the one that is kept, or else a new one.  A new one is kept once it is
ready for use. -/
def obtain (around : Surroundings) (t : Template) : Option Attempt × Template :=
  if t.hasProducer then (none, t)
  else
    let (made, factory) := t.factory.attempt around t.transactionIdPrefix
    let attempt := if t.isTransactional then made.prepared around else made
    (some attempt, { t with factory, hasProducer := attempt.fault?.isNone })

/-- Sends to a topic with the producer, in a transaction if the template is transactional. -/
def transmit (around : Surroundings) (t : Template) (topic : String) : Logged Unit :=
  if t.isTransactional then around.library.sendInTransaction topic
  else .silent (around.library.send topic)

/-- Sends to a topic once there is a producer, and tells the listener how the send went. -/
def deliver (around : Surroundings) (t : Template) (topic : String) (key : Option String) :
    Sending :=
  let (attempt, t) := t.obtain around
  let log := (attempt.map fun a => a.log).getD []
  match attempt.bind Attempt.fault? with
  | some e => { answer := .error e, attempt, log, reports := [], template := t }
  | none =>
    let sent := t.transmit around topic
    let report := SendReport.ofAnswer topic key sent.answer
    { answer := sent.answer
      attempt
      log := log ++ sent.log ++ t.listener.log report
      reports := [report]
      template := t }

/-- The entry that opens an observed send. -/
def observation (topic : String) : LogEntry := .span "kafka.send" [("topic", topic)]

/-- Sends to a topic. -/
def send (around : Surroundings) (t : Template) (topic : String) (key : Option String) : Sending :=
  let sending := t.deliver around topic key
  if t.observed then { sending with log := observation topic :: sending.log } else sending

/-- A step that ends before it needs a producer. -/
def stopped (t : Template) (e : AppError) : Sending :=
  { answer := .error e, attempt := none, log := [], reports := [], template := t }

/-- Sends to the default topic. -/
def sendDefault (around : Surroundings) (t : Template) (key : Option String) : Sending :=
  match t.defaultTopic with
  | none => t.stopped .noDefaultTopic
  | some topic => t.send around topic key

/-- Sends the payload of a message to a topic. -/
def sendMessage (around : Surroundings) (t : Template) (topic : String) (key : Option String)
    (message : Message) : Sending :=
  match t.payload message with
  | .error e => t.stopped e
  | .ok _ => t.send around topic key

/-- The warning that messages on their way were not waited for. -/
def flushRefused (reason : String) : LogEntry :=
  .warning "Failed to flush Kafka producer" [("error", reason)]

/-- Waits for messages on their way; the library may refuse to. -/
def flush (t : Template) (refusal? : Option String := none) : Sending :=
  { answer := .ok ()
    attempt := none
    log := if t.hasProducer then refusal?.elim [] fun reason => [flushRefused reason] else []
    reports := []
    template := t }

/-! ## Texts for people -/

open Inspect

instance : Inspect Template := ⟨fun t => openRecord "KafkaTemplate"
  [field "default_topic" (inspect t.defaultTopic),
   field "transaction_id_prefix" (inspect t.transactionIdPrefix),
   field "observation_enabled" (inspect t.observed), field "timeout" (inspect t.timeout)]⟩

end Template

end ClientWiring.Kafka
