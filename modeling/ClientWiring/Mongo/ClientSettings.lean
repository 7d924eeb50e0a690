import ClientWiring.Mongo.Address
import ClientWiring.Tls.Bundle

/-!
# Settings of a MongoDB client

The settings are gathered by customizers, one after the other.  TLS settings are changed in blocks:
a block that fails leaves them as they were.
-/

namespace ClientWiring.Mongo

/-- Whether TLS is on or off, if anyone said so, and its material. -/
structure TlsState where
  enabled : Option Bool
  context : Option Tls.Context
deriving DecidableEq

/-- Nobody said anything about TLS. -/
def TlsState.untouched : TlsState := ⟨none, none⟩

/-- Whether TLS is on. -/
def TlsState.isEnabled (t : TlsState) : Bool := t.enabled.getD false

/-- TLS with the given material. -/
def TlsState.switchedOn (t : TlsState) (context : Tls.Context) : TlsState :=
  { t with enabled := some true, context := some context }

/-- The settings gathered so far. -/
structure ClientSettings where
  address : Option Address
  uuid : Option UuidRepresentation
  applicationName : Option String
  tls : TlsState
deriving DecidableEq

namespace ClientSettings

/-- Nothing is set. -/
def empty : ClientSettings := ⟨none, none, none, .untouched⟩

/-- Changes the TLS settings by a block, which may fail. -/
def changeTls (s : ClientSettings) (block : TlsState → Except AppError TlsState) :
    ClientSettings × Except AppError Unit :=
  match block s.tls with
  | .ok tls => ({ s with tls }, .ok ())
  | .error e => (s, .error e)

end ClientSettings

end ClientWiring.Mongo
