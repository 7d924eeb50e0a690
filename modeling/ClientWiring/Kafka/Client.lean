import ClientWiring.Kafka.Library
import ClientWiring.Log
import ClientWiring.Redaction
import ClientWiring.Tls.Registry

/-!
# Configuration of a Kafka client

A client is configured by named entries and, beside them, by the TLS bundle that its connections
use.  The bundle is expanded into entries only when a client is made: `config` lays the entries of
the bundle over the others, and logs a warning for each setting of the bundle that has no entry.

    (c.set k v).get? j      = if j = k then some v else c.get? j                          (get?_set)
    (c.setIfNew k v).get? j = if j = k ∧ c.get? k = none then some v else c.get? j   (get?_setIfNew)
-/

namespace ClientWiring.Kafka

/-- The configuration of one client. -/
structure Client where
  entries : SortedMap String
  tls : Option Tls.Bundle
deriving DecidableEq

namespace Client

/-- No entries and no bundle. -/
def empty : Client := ⟨.empty, none⟩

/-- The value of an entry. -/
def get? (c : Client) (key : String) : Option String := c.entries.get? key

/-- Whether there is such an entry. -/
def contains (c : Client) (key : String) : Bool := c.entries.contains key

/-- Sets an entry. -/
def set (c : Client) (key value : String) : Client :=
  { c with entries := c.entries.insert key value }

/-- Sets an entry when there is a value. -/
def setSome (c : Client) (key : String) (value : Option String) : Client :=
  { c with entries := c.entries.insertSome key value }

/-- Sets an entry that is not there yet. -/
def setIfNew (c : Client) (key value : String) : Client :=
  { c with entries := c.entries.insertIfNew key value }

/-- Removes an entry. -/
def erase (c : Client) (key : String) : Client := { c with entries := c.entries.erase key }

/-- Sets the entries of a map. -/
def setAll (c : Client) (entries : SortedMap String) : Client :=
  { c with entries := c.entries.union entries }

/-! ## Servers, protocol, bundle -/

/-- The entry for the servers. -/
def serversKey : String := "bootstrap.servers"

/-- The entry for the name of the client. -/
def clientIdKey : String := "client.id"

/-- The entry for the security protocol. -/
def protocolKey : String := "security.protocol"

/-- A list of servers in an entry. -/
def joinServers (servers : List String) : String := ",".intercalate servers

/-- A text unless it is empty. -/
def nonEmpty (value : Option String) : Option String := value.filter (· ≠ "")

/-- Sets the security protocol unless it is empty. -/
def setProtocol (c : Client) (protocol : Option String) : Client :=
  c.setSome protocolKey (nonEmpty protocol)

/-- Takes TLS material from a bundle, if there is one. -/
def useBundle (c : Client) (bundle : Option Tls.Bundle) : Client :=
  { c with tls := bundle.or c.tls }

/-! ## Older form of the bundle -/

/-- The entry for the factory of TLS engines. -/
def engineFactoryKey : String := "ssl.engine.factory.class"

/-- The factory that makes TLS engines from a bundle. -/
def bundleEngineFactory : String := "SslBundleSslEngineFactory"

/-- The entry for the name of the bundle. -/
def bundleKey : String := "SslBundle"

/-- The entries in the older form, where two of them stand for the bundle. -/
def legacyEntries (c : Client) : SortedMap String :=
  match c.tls with
  | none => c.entries
  | some bundle =>
    (c.entries.insert engineFactoryKey bundleEngineFactory).insert bundleKey bundle.name

/-! ## Configuration for the client library -/

/-- The entries that stand for a bundle, where they have a value. -/
def bundleEntries (b : Tls.Bundle) : List (String × Option String) :=
  [("ssl.ca.location", b.stores.authority),
   ("ssl.certificate.location", b.stores.certificate),
   ("ssl.key.location", b.stores.key),
   ("ssl.key.password", b.stores.keyPassword.map Secret.exposed),
   ("ssl.endpoint.identification.algorithm",
      if b.stores.verifyHostname then none else some "none"),
   ("ssl.cipher.suites", b.options.ciphers.map (":".intercalate ·))]

/-- Sets those of the entries that have a value. -/
def overlay (entries : SortedMap String) (values : List (String × Option String)) :
    SortedMap String :=
  values.foldl (fun m p => m.insertSome p.1 p.2) entries

/-- The settings of a bundle that no entry can express. -/
def inexpressible (b : Tls.Bundle) : List String :=
  (if b.options.enabledProtocols.isSome then ["enabled_protocols"] else []) ++
    (if b.hasDefaultProtocol then [] else ["protocol"])

/-- The warning that a setting of a bundle is ignored. -/
def ignoredSetting (b : Tls.Bundle) (setting : String) : LogEntry :=
  .warning "SSL bundle setting is not supported by librdkafka, ignored"
    [("bundle", b.name), ("setting", setting)]

/-- The configuration that the client library gets; the files of the bundle must open. -/
def config (fs : FileSystem) (c : Client) : Logged (SortedMap String) :=
  match c.tls with
  | none => .silent (.ok c.entries)
  | some bundle =>
    match bundle.createContext fs with
    | .error e => .silent (.error e)
    | .ok _ =>
      { answer := .ok (overlay c.entries (bundleEntries bundle))
        log := (inexpressible bundle).map (ignoredSetting bundle) }

/-- Makes a client from the configuration with further entries; `refused` words a refusal. -/
def make (around : Surroundings) (c : Client) (further : List (String × Option String))
    (refused : String → AppError) : Logged Unit :=
  let configured := c.config around.files
  { configured with
    answer :=
      match configured.answer with
      | .error e => .error e
      | .ok entries =>
        match around.library.refusal? (overlay entries further) with
        | some reason => .error (refused reason)
        | none => .ok () }

/-! ## Lemmas -/

theorem get?_set (c : Client) (key value other : String) :
    (c.set key value).get? other = if other = key then some value else c.get? other :=
  SortedMap.get?_insert ..

theorem get?_setSome (c : Client) (key : String) (value : Option String) (other : String) :
    (c.setSome key value).get? other =
      if other = key then value.or (c.get? other) else c.get? other :=
  SortedMap.get?_insertSome ..

theorem get?_setIfNew (c : Client) (key value other : String) :
    (c.setIfNew key value).get? other =
      if other = key ∧ c.get? key = none then some value else c.get? other :=
  SortedMap.get?_insertIfNew ..

theorem get?_erase (c : Client) (key other : String) :
    (c.erase key).get? other = if other = key then none else c.get? other :=
  SortedMap.get?_erase ..

theorem get?_setAll (c : Client) (entries : SortedMap String) (other : String) :
    (c.setAll entries).get? other = (entries.get? other).or (c.get? other) :=
  SortedMap.get?_union ..

@[simp] theorem get?_useBundle (c : Client) (bundle : Option Tls.Bundle) (key : String) :
    (c.useBundle bundle).get? key = c.get? key := rfl

/-! ## Texts for people -/

open Inspect

instance : Inspect Client := ⟨fun c => record "ClientProperties"
  [field "entries" (Redaction.inspectEntries c.entries),
   field "tls" (match c.tls with
     | none => "None"
     | some bundle => wrapped "Some" (wrapped "Bundle" (inspect bundle)))]⟩

end Client

end ClientWiring.Kafka
