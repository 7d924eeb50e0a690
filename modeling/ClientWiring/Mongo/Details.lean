import ClientWiring.Mongo.Address
import ClientWiring.Tls.Registry

/-!
# Where the MongoDB client connects to

Connection details are a checked connection string and, when TLS is wanted, a bundle.  TLS without a
named bundle trusts the authorities of the operating system.
-/

namespace ClientWiring.Mongo

/-- A connection string, and a bundle if TLS is wanted. -/
structure Details where
  address : Address
  bundle : Option Tls.Bundle
deriving DecidableEq

/-- The name of a bundle unless it is empty. -/
def bundleName (s : MongoTlsSettings) : Option String := s.bundle.filter (· ≠ "")

namespace Details

/-- The bundle that settings ask for. -/
def bundleOfSettings (registry : Option Tls.Registry) (s : MongoTlsSettings) :
    Except AppError (Option Tls.Bundle) :=
  if s.enabled then
    match bundleName s with
    | none => .ok (some .systemDefault)
    | some name =>
      match Tls.resolve registry name with
      | .ok bundle => .ok (some bundle)
      | .error e => .error e
  else .ok none

/-- The details that settings describe; the connection string is checked before the bundle. -/
def ofSettings (registry : Option Tls.Registry) (s : MongoSettings) : Except AppError Details :=
  match Address.parse (Address.build s) with
  | .error e => .error e
  | .ok address =>
    match bundleOfSettings registry s.tls with
    | .error e => .error e
    | .ok bundle => .ok ⟨address, bundle⟩

end Details

/-! ## Texts for people -/

open Inspect

instance : Inspect Details := ⟨fun d => record "PropertiesMongoConnectionDetails"
  [field "connection_string" (inspect d.address), field "ssl_bundle" (inspect d.bundle)]⟩

end ClientWiring.Mongo
