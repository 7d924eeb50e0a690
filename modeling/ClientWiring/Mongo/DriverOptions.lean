import ClientWiring.Decimal.Read
import ClientWiring.Log
import ClientWiring.Mongo.ClientFactory
import ClientWiring.Text.SmallLetters

/-!
# Options of the MongoDB driver

The driver reads its options from the connection string, or takes the server on this machine when
there is none.  The settings are laid over them: an application name replaces the one of the string,
and TLS that was switched on or off replaces what the string says about TLS.  The driver wants
certificate and key in one file.

How a connection string is read is the driver's business, so the options of settings are those over
any reading (`Driver.options`).  `Driver.basic` reads hosts, database and the options used here.
-/

namespace ClientWiring.Mongo

/-- TLS of the driver: off, or on with files for authorities and for certificate and key, and with what
else a connection string can say of TLS, such as a password or certificates that are not checked, by its
name.  The settings say nothing else. -/
inductive DriverTls where
  | disabled
  | enabled (authority certificateAndKey : Option String) (further : List (String × String))
deriving DecidableEq, Repr

/-- The options of the driver. -/
structure DriverOptions where
  /-- Hosts with their ports. -/
  hosts : List String
  applicationName : Option String
  defaultDatabase : Option String
  replicaSet : Option String
  tls : Option DriverTls
  /-- What else was said, such as credentials and limits, by its name. -/
  further : List (String × String)
deriving DecidableEq, Repr

/-- A driver, as far as the options depend on it. -/
structure Driver where
  /-- The options in a connection string, or the reason for which it is refused. -/
  read : Address → Except String DriverOptions

namespace DriverOptions

/-- The server on this machine. -/
def localServer : DriverOptions :=
  { hosts := ["localhost:27017"], applicationName := none, defaultDatabase := none,
    replicaSet := none, tls := none, further := [] }

/-! ## The connection string as the driver reads it -/

/-- A port of a host, which is not zero and may have a sign. -/
def port? (cs : List Char) : Option Nat :=
  let digits := match cs with
    | '+' :: rest => rest
    | _ => cs
  if !digits.isEmpty && digits.all Char.isDigit then
    let n := Decimal.ofDigits digits
    if 0 < n ∧ n < UInt16.size then some n else none
  else none

/-- A host in small letters with its port. -/
def host? (cs : List Char) : Option String :=
  let host := Text.smallLetters (String.ofList (cs.takeWhile (· != ':')))
  if host = "" then none
  else
    match cs.dropWhile (· != ':') with
    | [] => some (host ++ ":" ++ MongoSettings.defaultPort.toNat.repr)
    | _ :: digits => (port? digits).map fun n => host ++ ":" ++ n.repr

/-- The hosts of a list, none of which may be empty. -/
def hosts? (hostList : List Char) : Option (List String) := (hostList.splitOn ',').mapM host?

/-- An option of the connection string, its name in small letters and its value decoded. -/
def option (cs : List Char) : String × String :=
  (Text.smallLetters (String.ofList (cs.takeWhile (· != '='))),
   Text.Percent.decodeRepaired ((cs.dropWhile (· != '=')).drop 1))

/-- The options after the first question mark. -/
def optionPairs (rest : List Char) : List (String × String) :=
  (((rest.dropWhile (· != '?')).drop 1).splitOn '&').map option

/-- The value of an option. -/
def value? (pairs : List (String × String)) (name : String) : Option String :=
  (pairs.find? (·.1 = name)).map (·.2)

/-- What the options say about TLS; anything but a truth value is refused. -/
def tls? (pairs : List (String × String)) : Option (Option DriverTls) :=
  match (value? pairs "tls").or (value? pairs "ssl") with
  | none => some none
  | some "true" => some (some (.enabled none none []))
  | some "false" => some (some .disabled)
  | some _ => none

/-- Whether a database can have this name. -/
def isDatabaseName (name : String) : Bool := !name.toList.contains ' '

/-- The options in a connection string, unless the driver refuses it. -/
def ofAddress? (a : Address) : Option DriverOptions := do
  let (_, rest) ← Address.splitScheme a.text.exposed.toList
  let hosts ← hosts? (Address.hostList (Address.authority rest))
  let pairs := optionPairs rest
  let tls ← tls? pairs
  if a.database.all isDatabaseName then
    some { hosts, applicationName := value? pairs "appname", defaultDatabase := a.database,
           replicaSet := value? pairs "replicaset", tls, further := [] }
  else none

/-- The reason that the driver gives for a refusal. -/
def refusal : String := "An invalid argument was provided"

/-- The options that the settings start from. -/
def base (driver : Driver) (s : ClientSettings) : Except AppError DriverOptions :=
  match s.address with
  | none => .ok localServer
  | some a =>
    match driver.read a with
    | .ok options => .ok options
    | .error reason => .error (.connectionStringRefused reason)

/-! ## TLS material -/

/-- The one file for certificate and key. -/
def certificateAndKey (stores : Tls.Stores) : Except AppError (Option String) :=
  match stores.certificate, stores.key with
  | some certificate, some key =>
    if FileSystem.samePath certificate key then .ok (some certificate)
    else .error (.splitPem certificate key)
  | some certificate, none => .ok (some certificate)
  | none, key => .ok key

/-- The warnings about material that the driver cannot use. -/
def unusable (stores : Tls.Stores) : List LogEntry :=
  (if stores.keyPassword.isSome then
    [.warning "Encrypted private keys are not supported by the MongoDB driver, key password ignored"
      []]
  else []) ++
  (if stores.verifyHostname then []
  else [.warning "Hostname verification cannot be disabled for MongoDB, setting ignored" []])

/-- TLS of the driver with the given material. -/
def tlsOfContext (context : Option Tls.Context) : Logged DriverTls :=
  match context with
  | none => .silent (.ok (.enabled none none []))
  | some c =>
    match certificateAndKey c.stores with
    | .error e => .silent (.error e)
    | .ok file => ⟨.ok (.enabled c.stores.authority file []), unusable c.stores⟩

end DriverOptions

/-! ## The options of settings -/

namespace Driver

open DriverOptions

/-- The options of settings with this driver. -/
def options (driver : Driver) (s : ClientSettings) : Logged DriverOptions :=
  match base driver s with
  | .error e => .silent (.error e)
  | .ok options =>
    let options := { options with applicationName := s.applicationName.or options.applicationName }
    match s.tls.enabled with
    | none => .silent (.ok options)
    | some false => .silent (.ok { options with tls := some .disabled })
    | some true =>
      let tls := tlsOfContext s.tls.context
      { tls with
        answer := match tls.answer with
          | .error e => .error e
          | .ok tls => .ok { options with tls := some tls } }

/-- The driver that reads hosts, database, application name, replica set and the switch of TLS. -/
def basic : Driver :=
  ⟨fun a =>
    match ofAddress? a with
    | some options => .ok options
    | none => .error refusal⟩

end Driver

/-- The options of settings. -/
def DriverOptions.ofSettings (s : ClientSettings) : Logged DriverOptions := Driver.basic.options s

/-- The options of the clients that a factory makes. -/
def ClientFactory.options (f : ClientFactory) : Logged DriverOptions :=
  match f.settings with
  | .error e => .silent (.error e)
  | .ok s => DriverOptions.ofSettings s

end ClientWiring.Mongo
