import ClientWiring.FileSystem
import ClientWiring.Text.Utf8

/-!
# Errors of the assembly

An error is a cause.  `kind` sorts the causes, `detail` words them, and `message` is the label of
the kind followed by the detail.  Causes that report the refusal of a client library carry the
library's own reason; `Message.withoutReason` cuts a message before it.
-/

namespace ClientWiring

/-- Why a file or an input value was refused. -/
inductive IoFault where
  | cannotOpen (fault : OpenFault)
  | unknownControlFlag (flag : String)
  | other (text : String)
deriving DecidableEq, Repr

/-- The class of a fault. -/
def IoFault.className : IoFault → String
  | .cannotOpen fault => fault.className
  | .unknownControlFlag _ => "InvalidInput"
  | .other _ => "Other"

/-- The wording of a fault. -/
def IoFault.message : IoFault → String
  | .cannotOpen fault => fault.message
  | .unknownControlFlag flag => "Unknown JAAS control flag: " ++ flag
  | .other text => text

/-- The kinds of errors. -/
inductive ErrorKind where
  | notFound
  | validation
  | illegalState
  | io
  | kafka
  | mongo
  | internal
deriving DecidableEq, Repr

/-- The name of a kind. -/
def ErrorKind.name : ErrorKind → String
  | .notFound => "NotFound"
  | .validation => "Validation"
  | .illegalState => "IllegalState"
  | .io => "Io"
  | .kafka => "Kafka"
  | .mongo => "Mongo"
  | .internal => "Internal"

/-- The words that open the message of an error. -/
def ErrorKind.label : ErrorKind → String
  | .notFound => "Not found"
  | .validation => "Validation error"
  | .illegalState => "Illegal state"
  | .io => "I/O error"
  | .kafka => "Kafka error"
  | .mongo => "MongoDB error"
  | .internal => "Internal error"

/-- The causes of failure. -/
inductive AppError where
  /-- No bundle of this name is registered. -/
  | unknownBundle (name : String)
  /-- A bundle has a private key and no certificate. -/
  | keyWithoutCertificate (name : String)
  /-- A bundle of this name is registered already. -/
  | bundleRegistered (name : String)
  /-- A bundle is asked for and there is no registry to ask. -/
  | noRegistry (name : String)
  /-- TLS is switched on for MongoDB without a bundle. -/
  | noMongoBundle
  /-- The bundle for MongoDB restricts ciphers or protocols. -/
  | mongoTlsOptions
  /-- Transactions over a factory that makes no transactional producers. -/
  | notTransactional
  /-- A message for the default topic when there is none. -/
  | noDefaultTopic
  /-- A connection string of neither scheme. -/
  | unknownScheme
  /-- A connection string without a host. -/
  | noHost
  /-- A service record stands for one host only. -/
  | severalServiceHosts
  /-- Escapes that stand for no text. -/
  | badEscape (fault : Text.Utf8.Fault)
  /-- A message that has no JSON form. -/
  | unserializable (reason : String)
  | io (fault : IoFault)
  | producerRefused (reason : String)
  | consumerRefused (reason : String)
  | adminRefused (reason : String)
  | transactionsRefused (reason : String)
  | beginRefused (reason : String)
  | sendFailed (topic reason : String)
  | commitRefused (reason : String)
  | abortRefused (reason : String)
  /-- A transaction failed and could not be aborted; both messages are kept. -/
  | abortFailed (cause abort : String)
  | topicsRefused (reason : String)
  | connectionStringRefused (reason : String)
  /-- Certificate and private key in two files where one is needed. -/
  | splitPem (certificate key : String)
  | recorderRefused (reason : String)
  /-- Raised by a component of the caller. -/
  | raised (kind : ErrorKind) (text : String)
deriving DecidableEq, Repr

namespace AppError

/-- The kind of a cause. -/
def kind : AppError → ErrorKind
  | unknownBundle _ => .notFound
  | keyWithoutCertificate _ | unknownScheme | noHost | severalServiceHosts | badEscape _
  | unserializable _ => .validation
  | bundleRegistered _ | noRegistry _ | noMongoBundle | mongoTlsOptions | notTransactional
  | noDefaultTopic => .illegalState
  | io _ => .io
  | producerRefused _ | consumerRefused _ | adminRefused _ | transactionsRefused _ | beginRefused _
  | sendFailed _ _ | commitRefused _ | abortRefused _ | abortFailed _ _ | topicsRefused _ => .kafka
  | connectionStringRefused _ | splitPem _ _ => .mongo
  | recorderRefused _ => .internal
  | raised kind _ => kind

/-- The wording of a cause. -/
def detail : AppError → String
  | unknownBundle name => s!"SSL bundle name '{name}' cannot be found"
  | keyWithoutCertificate name => s!"SSL bundle '{name}' has a private key but no certificate"
  | bundleRegistered name => s!"SSL bundle '{name}' is already registered"
  | noRegistry name =>
    s!"SSL bundle '{name}' is configured but no SSL bundle registry is available"
  | noMongoBundle => "SSL is enabled for MongoDB but no SSL bundle is configured"
  | mongoTlsOptions => "SSL options cannot be specified with MongoDB"
  | notTransactional => "The producer factory must support transactions"
  | noDefaultTopic => "No default topic configured"
  | unknownScheme => "The connection string is invalid. Connection strings must start with " ++
      "either 'mongodb://' or 'mongodb+srv://'"
  | noHost => "The connection string must contain at least one host"
  | severalServiceHosts => "Only one host allowed when using mongodb+srv protocol"
  | badEscape fault => "Invalid escape in connection string: " ++ fault.message
  | unserializable reason => s!"Failed to serialize message: {reason}"
  | io fault => fault.message
  | producerRefused reason => s!"Failed to create Kafka producer: {reason}"
  | consumerRefused reason => s!"Failed to create Kafka consumer: {reason}"
  | adminRefused reason => s!"Failed to create admin client: {reason}"
  | transactionsRefused reason => s!"Failed to initialize transactions: {reason}"
  | beginRefused reason => s!"Failed to begin transaction: {reason}"
  | sendFailed topic reason => s!"Failed to send message to {topic}: {reason}"
  | commitRefused reason => s!"Failed to commit transaction: {reason}"
  | abortRefused reason => s!"Failed to abort transaction: {reason}"
  | abortFailed cause abort => s!"{cause}; {abort}"
  | topicsRefused reason => s!"Failed to create topics: {reason}"
  | connectionStringRefused reason => s!"Invalid MongoDB connection string: {reason}"
  | splitPem certificate key =>
    "MongoDB requires the client certificate and private key in one PEM file, " ++
      s!"got {certificate} and {key}"
  | recorderRefused reason => s!"Failed to install metrics recorder: {reason}"
  | raised _ text => text

/-- The full text of an error. -/
def message (e : AppError) : String := e.kind.label ++ ": " ++ e.detail

/-- Whether a precondition of the configuration is hurt, so that start-up has to stop. -/
def isIllegalState (e : AppError) : Bool := e.kind = .illegalState

end AppError

/-- Fails unless the condition holds. -/
def ensure (condition : Bool) (otherwise : AppError) : Except AppError Unit :=
  if condition then .ok () else .error otherwise

namespace Message

/-- The characters before the first `": "`. -/
def firstClause : List Char → List Char
  | [] => []
  | ':' :: ' ' :: _ => []
  | c :: rest => c :: firstClause rest

/-- The kinds whose messages end in the reason of a client library. -/
def reasoned : List ErrorKind := [.kafka, .mongo, .internal]

/-- The message without the reason that a client library gave: the label and the first clause.
What MongoDB requires is told by this library and stays whole. -/
def withoutReason (message : String) : String :=
  let cs := message.toList
  if "MongoDB error: MongoDB requires".toList.isPrefixOf cs then message
  else
    let cut := reasoned.findSome? fun kind =>
      let label := (kind.label ++ ": ").toList
      if label.isPrefixOf cs then
        some (label ++ firstClause (cs.drop label.length))
      else none
    match cut with
    | some kept => String.ofList kept
    | none => message

end Message

end ClientWiring
