import ClientWiring.Mongo.ClientSettings
import ClientWiring.Mongo.Details
import ClientWiring.Ranked

/-!
# Customizers of client settings

A customizer changes the settings and may fail; what it changed before it failed stays changed.  The
standard customizer sets connection string, UUID representation and TLS from one of two sources:
connection details, which already know their bundle, or a connection string with TLS settings, whose
bundle is looked up when it is needed.
-/

namespace ClientWiring.Mongo

/-- A change of client settings. -/
structure Customizer where
  rank : Int
  apply : ClientSettings → ClientSettings × Except AppError Unit

/-- Where the standard customizer takes connection string and bundle from. -/
inductive Source where
  /-- A connection string with TLS settings and a registry. -/
  | direct (address : Address) (tls : MongoTlsSettings) (registry : Option Tls.Registry)
  /-- Connection details. -/
  | details (details : Details)

/-- The standard customizer. -/
structure Standard where
  source : Source
  uuid : UuidRepresentation
  rank : Int

namespace Source

/-- The connection string of a source. -/
def address : Source → Address
  | direct address _ _ => address
  | details d => d.address

/-- The bundle of TLS settings, which have to name one. -/
def directBundle (tls : MongoTlsSettings) (registry : Option Tls.Registry) :
    Except AppError Tls.Bundle :=
  match bundleName tls with
  | none => .error .noMongoBundle
  | some name => Tls.resolve registry name

/-- The bundle of a source, if TLS is wanted. -/
def bundle : Source → Except AppError (Option Tls.Bundle)
  | details d => .ok d.bundle
  | direct _ tls registry =>
    if tls.enabled then
      match directBundle tls registry with
      | .ok bundle => .ok (some bundle)
      | .error e => .error e
    else .ok none

end Source

/-- Switches TLS on with the material of a bundle, which must not restrict the handshake. -/
def useBundle (fs : FileSystem) (bundle : Tls.Bundle) (tls : TlsState) :
    Except AppError TlsState :=
  if bundle.options.isSpecified then .error .mongoTlsOptions
  else
    match bundle.createContext fs with
    | .ok context => .ok (tls.switchedOn context)
    | .error e => .error e

/-- Applies the standard customizer: UUID representation and connection string first, then TLS. -/
def Standard.apply (fs : FileSystem) (c : Standard) (s : ClientSettings) :
    ClientSettings × Except AppError Unit :=
  let s := { s with uuid := some c.uuid, address := some c.source.address }
  match c.source.bundle with
  | .error e => (s, .error e)
  | .ok none => (s, .ok ())
  | .ok (some bundle) => s.changeTls (useBundle fs bundle)

/-- The standard customizer as one of many. -/
def Standard.toCustomizer (fs : FileSystem) (c : Standard) : Customizer := ⟨c.rank, c.apply fs⟩

/-! ## Texts for people -/

open Inspect

instance : Inspect Source := ⟨fun
  | .direct address tls _ => openRecord "Legacy"
    [field "connection_string" (inspect address), field "ssl" (inspect tls)]
  | .details _ => "Details"⟩

end ClientWiring.Mongo
