import ClientWiring.Secret
import ClientWiring.Tree.Section

/-!
# Settings of TLS bundles

The bundles of the section `ssl.bundle.pem`, by name.  A bundle points to a key store, of which
certificate, private key and its password are used, and to a trust store, of which the certificate
is used.
-/

namespace ClientWiring

/-- The parts of a PEM store. -/
structure PemStoreSettings where
  certificate : Option String
  privateKey : Option String
  privateKeyPassword : Option Secret
deriving DecidableEq

/-- Restrictions of the handshake; what is absent is left to the client library. -/
structure TlsOptionSettings where
  ciphers : Option (List String)
  enabledProtocols : Option (List String)
deriving DecidableEq

/-- One bundle. -/
structure PemBundleSettings where
  keystore : PemStoreSettings
  truststore : PemStoreSettings
  options : TlsOptionSettings
  protocol : Option String
  verifyHostname : Bool
deriving DecidableEq

/-- All bundles, by name. -/
structure TlsSettings where
  bundles : SortedMap PemBundleSettings
deriving DecidableEq

/-! ## Defaults -/

/-- A store without parts. -/
def PemStoreSettings.default : PemStoreSettings := ⟨none, none, none⟩

/-- No restrictions. -/
def TlsOptionSettings.default : TlsOptionSettings := ⟨none, none⟩

/-- A bundle without material that checks host names. -/
def PemBundleSettings.default : PemBundleSettings :=
  { keystore := .default, truststore := .default, options := .default, protocol := none,
    verifyHostname := true }

/-- No bundles. -/
def TlsSettings.default : TlsSettings := ⟨.empty⟩

/-! ## Readings -/

open ClientWiring.Tree

/-- A secret text. -/
def Tree.secret? (t : Tree) : Option Secret := (text? t).map Secret.mk

/-- The fields of a store in the order of a row. -/
def PemStoreSettings.fieldNames : List String :=
  ["certificate", "private_key", "private_key_password"]

/-- The reading of a store. -/
def PemStoreSettings.ofTree? (surplus : Surplus) (t : Tree) : Option PemStoreSettings := do
  let fields ← sectionOf? surplus PemStoreSettings.fieldNames t
  let certificate ← optional fields "certificate" text?
  let privateKey ← optional fields "private_key" text?
  let privateKeyPassword ← optional fields "private_key_password" secret?
  some { certificate, privateKey, privateKeyPassword }

/-- The fields of restrictions in the order of a row. -/
def TlsOptionSettings.fieldNames : List String := ["ciphers", "enabled_protocols"]

/-- The reading of restrictions. -/
def TlsOptionSettings.ofTree? (surplus : Surplus) (t : Tree) : Option TlsOptionSettings := do
  let fields ← sectionOf? surplus TlsOptionSettings.fieldNames t
  let ciphers ← optional fields "ciphers" texts?
  let enabledProtocols ← optional fields "enabled_protocols" texts?
  some { ciphers, enabledProtocols }

/-- The fields of a bundle in the order of a row. -/
def PemBundleSettings.fieldNames : List String :=
  ["keystore", "truststore", "options", "protocol", "verify_hostname"]

/-- The reading of a bundle. -/
def PemBundleSettings.ofTree? (surplus : Surplus) (t : Tree) : Option PemBundleSettings := do
  let fields ← sectionOf? surplus PemBundleSettings.fieldNames t
  let keystore ← withDefault fields "keystore" (PemStoreSettings.ofTree? surplus) .default
  let truststore ← withDefault fields "truststore" (PemStoreSettings.ofTree? surplus) .default
  let options ← withDefault fields "options" (TlsOptionSettings.ofTree? surplus) .default
  let protocol ← optional fields "protocol" text?
  let verifyHostname ← withDefault fields "verify_hostname" bool? true
  some { keystore, truststore, options, protocol, verifyHostname }

/-- The reading of the section inside `ssl` that holds the bundles. -/
def TlsSettings.ofBundleTree? (surplus : Surplus) (t : Tree) : Option TlsSettings := do
  let fields ← sectionOf? surplus ["pem"] t
  let bundles ← withDefault fields "pem" (mapOf? (PemBundleSettings.ofTree? surplus)) .empty
  some { bundles }

/-- The reading of the section `ssl`. -/
def TlsSettings.ofTree? (surplus : Surplus) (t : Tree) : Option TlsSettings := do
  let fields ← sectionOf? surplus ["bundle"] t
  withDefault fields "bundle" (TlsSettings.ofBundleTree? surplus) .default

/-! ## Texts for people -/

open Inspect

instance : Inspect PemStoreSettings := ⟨fun s => record "PemStoreProperties"
  [field "certificate" (inspect s.certificate), field "private_key" (inspect s.privateKey),
   field "private_key_password" (inspect s.privateKeyPassword)]⟩

instance : Inspect TlsOptionSettings := ⟨fun s => record "SslOptionsProperties"
  [field "ciphers" (inspect s.ciphers), field "enabled_protocols" (inspect s.enabledProtocols)]⟩

instance : Inspect PemBundleSettings := ⟨fun s => record "PemSslBundleProperties"
  [field "keystore" (inspect s.keystore), field "truststore" (inspect s.truststore),
   field "options" (inspect s.options), field "protocol" (inspect s.protocol),
   field "verify_hostname" (inspect s.verifyHostname)]⟩

instance : Inspect TlsSettings := ⟨fun s => record "SslProperties"
  [field "bundle" (record "SslBundleProperties" [field "pem" (inspect s.bundles)])]⟩

end ClientWiring
