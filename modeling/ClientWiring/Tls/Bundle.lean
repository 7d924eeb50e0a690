import ClientWiring.Error
import ClientWiring.Settings.Tls
import ClientWiring.Text.Caseless

/-!
# TLS bundles

A bundle names the files and options of TLS connections.  Making a `Context` from it opens every
file it names, in the order authority, certificate, key, and fails at the first that cannot be
opened; the context itself only repeats what the bundle says (`createContext_eq_ok_iff`).
-/

namespace ClientWiring.Tls

/-- Restrictions of the handshake; what is absent is left to the client library. -/
structure Options where
  ciphers : Option (List String)
  enabledProtocols : Option (List String)
deriving DecidableEq

/-- Whether anything is restricted. -/
def Options.isSpecified (o : Options) : Bool := o.ciphers.isSome || o.enabledProtocols.isSome

/-- The PEM files of a bundle, by path. -/
structure Stores where
  authority : Option String
  certificate : Option String
  key : Option String
  keyPassword : Option Secret
  verifyHostname : Bool
deriving DecidableEq

/-- The paths that a bundle names, in the order in which they are opened. -/
def Stores.paths (s : Stores) : List String :=
  s.authority.toList ++ s.certificate.toList ++ s.key.toList

/-- A named set of TLS material. -/
structure Bundle where
  name : String
  stores : Stores
  options : Options
  protocol : String
deriving DecidableEq

/-- TLS material, all of whose files could be opened. -/
structure Context where
  protocol : String
  stores : Stores
deriving DecidableEq

/-- Whether the trusted authorities are the ones of the operating system. -/
def Context.usesSystemRoots (c : Context) : Bool := c.stores.authority.isNone

/-- Any version of the protocol. -/
def defaultProtocol : String := "TLS"

/-- No files, and host names are checked. -/
def Stores.none : Stores :=
  { authority := .none, certificate := .none, key := .none, keyPassword := .none,
    verifyHostname := true }

/-- No restrictions. -/
def Options.none : Options := ⟨.none, .none⟩

namespace Bundle

/-- A bundle without material, which trusts the authorities of the operating system. -/
def systemDefault : Bundle := ⟨"system-default", .none, .none, defaultProtocol⟩

/-- The bundle that settings describe. -/
def ofSettings (name : String) (s : PemBundleSettings) : Bundle :=
  { name
    stores :=
      { authority := s.truststore.certificate
        certificate := s.keystore.certificate
        key := s.keystore.privateKey
        keyPassword := s.keystore.privateKeyPassword
        verifyHostname := s.verifyHostname }
    options := ⟨s.options.ciphers, s.options.enabledProtocols⟩
    protocol := s.protocol.getD defaultProtocol }

/-- Whether the protocol is the one that means any version. -/
def hasDefaultProtocol (b : Bundle) : Bool := Text.sameLetters b.protocol defaultProtocol

end Bundle

/-- Opens paths one after the other. -/
def openAll (fs : FileSystem) : List String → Except AppError Unit
  | [] => .ok ()
  | path :: rest =>
    match fs.openFile path with
    | .ok () => openAll fs rest
    | .error fault => .error (.io (.cannotOpen fault))

/-- The context of a bundle, if its files can be opened. -/
def Bundle.createContext (fs : FileSystem) (b : Bundle) : Except AppError Context :=
  match openAll fs b.stores.paths with
  | .ok () => .ok ⟨b.protocol, b.stores⟩
  | .error e => .error e

/-! ## Lemmas -/

theorem openAll_eq_ok_iff (fs : FileSystem) (paths : List String) :
    openAll fs paths = .ok () ↔ ∀ path ∈ paths, fs.openFile path = .ok () := by
  induction paths with
  | nil => simp [openAll]
  | cons path rest ih =>
    simp only [openAll, List.mem_cons, forall_eq_or_imp]
    cases h : fs.openFile path with
    | ok u => simp [ih]
    | error fault => simp

theorem Bundle.createContext_eq_ok_iff (fs : FileSystem) (b : Bundle) (c : Context) :
    b.createContext fs = .ok c ↔
      c = ⟨b.protocol, b.stores⟩ ∧ ∀ path ∈ b.stores.paths, fs.openFile path = .ok () := by
  rw [← openAll_eq_ok_iff]
  unfold createContext
  cases openAll fs b.stores.paths with
  | ok u => simp [eq_comm]
  | error e => simp

/-! ## Texts for people -/

open Inspect

instance : Inspect Options := ⟨fun o => record "SslOptions"
  [field "ciphers" (inspect o.ciphers), field "enabled_protocols" (inspect o.enabledProtocols)]⟩

instance : Inspect Stores := ⟨fun s => record "SslStoreBundle"
  [field "ca_location" (inspect s.authority), field "certificate_location" (inspect s.certificate),
   field "key_location" (inspect s.key), field "key_password" (inspect s.keyPassword),
   field "verify_hostname" (inspect s.verifyHostname)]⟩

instance : Inspect Bundle := ⟨fun b => record "SslBundle"
  [field "name" (inspect b.name), field "stores" (inspect b.stores),
   field "options" (inspect b.options), field "protocol" (inspect b.protocol)]⟩

end ClientWiring.Tls
