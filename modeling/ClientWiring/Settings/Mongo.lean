import ClientWiring.Secret
import ClientWiring.Settings.Tls

/-!
# Settings of the MongoDB client

Either a whole connection string, or the parts from which one is built.
-/

namespace ClientWiring

/-- How UUIDs are stored. -/
inductive UuidRepresentation where
  | unspecified
  | standard
  | cSharpLegacy
  | javaLegacy
  | pythonLegacy
deriving DecidableEq, Repr

/-- The name of a representation in settings. -/
def UuidRepresentation.ofName? : String → Option UuidRepresentation
  | "unspecified" => some .unspecified
  | "standard" => some .standard
  | "c-sharp-legacy" => some .cSharpLegacy
  | "java-legacy" => some .javaLegacy
  | "python-legacy" => some .pythonLegacy
  | _ => none

/-- The name of a representation in options of the driver. -/
def UuidRepresentation.name : UuidRepresentation → String
  | .unspecified => "unspecified"
  | .standard => "standard"
  | .cSharpLegacy => "csharpLegacy"
  | .javaLegacy => "javaLegacy"
  | .pythonLegacy => "pythonLegacy"

/-- Whether TLS is wanted, and with which bundle. -/
structure MongoTlsSettings where
  enabled : Bool
  bundle : Option String
deriving DecidableEq

/-- The section `mongo`. -/
structure MongoSettings where
  uri : Option Secret
  host : Option String
  port : Option UInt16
  additionalHosts : List String
  database : Option String
  authenticationDatabase : Option String
  username : Option String
  password : Option Secret
  replicaSetName : Option String
  uuidRepresentation : UuidRepresentation
  tls : MongoTlsSettings
deriving DecidableEq

/-! ## Defaults -/

/-- No TLS. -/
def MongoTlsSettings.default : MongoTlsSettings := ⟨false, none⟩

/-- A client of the server on this machine. -/
def MongoSettings.default : MongoSettings :=
  { uri := none, host := none, port := none, additionalHosts := [], database := none,
    authenticationDatabase := none, username := none, password := none, replicaSetName := none,
    uuidRepresentation := .javaLegacy, tls := .default }

/-- The database that is used when none is named. -/
def MongoSettings.defaultDatabase : String := "test"

/-- The host that is used when none is named. -/
def MongoSettings.defaultHost : String := "localhost"

/-- The port that is used when none is given. -/
def MongoSettings.defaultPort : UInt16 := 27017

/-- The database in use. -/
def MongoSettings.clientDatabase (s : MongoSettings) : String :=
  s.database.getD defaultDatabase

/-! ## Readings -/

open ClientWiring.Tree

/-- The reading of a representation: its name, or a table with its name for `null`. -/
def UuidRepresentation.ofTree? : Tree → Option UuidRepresentation
  | .text name => UuidRepresentation.ofName? name
  | .table [(name, .null)] => UuidRepresentation.ofName? name
  | _ => none

/-- The fields of the section `mongo.ssl` in the order of a row. -/
def MongoTlsSettings.fieldNames : List String := ["enabled", "bundle"]

/-- The reading of the section `mongo.ssl`. -/
def MongoTlsSettings.ofTree? (surplus : Surplus) (t : Tree) : Option MongoTlsSettings := do
  let fields ← sectionOf? surplus MongoTlsSettings.fieldNames t
  let enabled ← withDefault fields "enabled" bool? false
  let bundle ← optional fields "bundle" text?
  some { enabled, bundle }

/-- The fields of the section `mongo` in the order of a row. -/
def MongoSettings.fieldNames : List String :=
  ["uri", "host", "port", "additional_hosts", "database", "authentication_database", "username",
   "password", "replica_set_name", "uuid_representation", "ssl"]

/-- The reading of the section `mongo`. -/
def MongoSettings.ofTree? (surplus : Surplus) (t : Tree) : Option MongoSettings := do
  let fields ← sectionOf? surplus MongoSettings.fieldNames t
  let uri ← optional fields "uri" secret?
  let host ← optional fields "host" text?
  let port ← optional fields "port" uint16?
  let additionalHosts ← withDefault fields "additional_hosts" texts? []
  let database ← optional fields "database" text?
  let authenticationDatabase ← optional fields "authentication_database" text?
  let username ← optional fields "username" text?
  let password ← optional fields "password" secret?
  let replicaSetName ← optional fields "replica_set_name" text?
  let uuidRepresentation ←
    withDefault fields "uuid_representation" UuidRepresentation.ofTree? .javaLegacy
  let tls ← withDefault fields "ssl" (MongoTlsSettings.ofTree? surplus) .default
  some { uri, host, port, additionalHosts, database, authenticationDatabase, username, password,
         replicaSetName, uuidRepresentation, tls }

/-! ## Texts for people -/

open Inspect

instance : Inspect UuidRepresentation := ⟨fun
  | .unspecified => "Unspecified"
  | .standard => "Standard"
  | .cSharpLegacy => "CSharpLegacy"
  | .javaLegacy => "JavaLegacy"
  | .pythonLegacy => "PythonLegacy"⟩

instance : Inspect MongoTlsSettings := ⟨fun s => record "MongoSslProperties"
  [field "enabled" (inspect s.enabled), field "bundle" (inspect s.bundle)]⟩

instance : Inspect MongoSettings := ⟨fun s => record "MongoProperties"
  [field "uri" (inspect s.uri), field "host" (inspect s.host), field "port" (inspect s.port),
   field "additional_hosts" (inspect s.additionalHosts), field "database" (inspect s.database),
   field "authentication_database" (inspect s.authenticationDatabase),
   field "username" (inspect s.username), field "password" (inspect s.password),
   field "replica_set_name" (inspect s.replicaSetName),
   field "uuid_representation" (inspect s.uuidRepresentation), field "ssl" (inspect s.tls)]⟩

end ClientWiring
