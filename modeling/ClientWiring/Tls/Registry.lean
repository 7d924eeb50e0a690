import ClientWiring.Tls.Bundle

/-!
# The registry of TLS bundles

A name is registered once and keeps its bundle.  `get` is the only way to a bundle, and fails for a
name that was never registered; `register` and `enter` fail for one that was, and `enter` then leaves the registry
as it is.
-/

namespace ClientWiring.Tls

/-- Bundles by the name under which they are registered. -/
structure Registry where
  bundles : SortedMap Bundle
deriving DecidableEq

namespace Registry

/-- A registry without bundles. -/
def empty : Registry := ⟨.empty⟩

/-- The bundle of a name. -/
def get (r : Registry) (name : String) : Except AppError Bundle :=
  match r.bundles.get? name with
  | some bundle => .ok bundle
  | none => .error (.unknownBundle name)

/-- Registers a bundle under a new name. -/
def register (r : Registry) (name : String) (bundle : Bundle) : Except AppError Registry :=
  if r.bundles.contains name then .error (.bundleRegistered name)
  else .ok ⟨r.bundles.insert name bundle⟩

/-- Registers a bundle on the spot: the registry after the call, and whether the name was new.  A name
that is taken keeps its bundle. -/
def enter (r : Registry) (name : String) (bundle : Bundle) : Registry × Except AppError Unit :=
  if r.bundles.contains name then (r, .error (.bundleRegistered name))
  else (⟨r.bundles.insert name bundle⟩, .ok ())

/-- The registered names, ascending. -/
def names (r : Registry) : List String := r.bundles.keys

/-- The number of registered names. -/
def size (r : Registry) : Nat := r.bundles.size

/-- Whether no name is registered. -/
def isEmpty (r : Registry) : Bool := r.bundles.isEmpty

/-- Whether settings name a private key and no certificate for it. -/
def lacksCertificate (s : PemBundleSettings) : Bool :=
  s.keystore.privateKey.isSome && s.keystore.certificate.isNone

/-- Registers the bundles of settings one after the other. -/
def registerAll (r : Registry) : List (String × PemBundleSettings) → Except AppError Registry
  | [] => .ok r
  | (name, s) :: rest =>
    if lacksCertificate s then .error (.keyWithoutCertificate name)
    else
      match r.register name (Bundle.ofSettings name s) with
      | .ok next => next.registerAll rest
      | .error e => .error e

/-- The registry of the bundles in the settings, in the order of their names. -/
def ofSettings (s : TlsSettings) : Except AppError Registry := empty.registerAll s.bundles.pairs

end Registry

/-- The bundle of a name, which needs a registry. -/
def resolve (registry : Option Registry) (name : String) : Except AppError Bundle :=
  match registry with
  | some r => r.get name
  | none => .error (.noRegistry name)

/-- The bundle of a name, if one is given. -/
def resolveOptional (registry : Option Registry) : Option String → Except AppError (Option Bundle)
  | none => .ok none
  | some name =>
    match resolve registry name with
    | .ok bundle => .ok (some bundle)
    | .error e => .error e

end ClientWiring.Tls
