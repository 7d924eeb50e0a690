import ClientWiring.Proofs.Kafka.RoleEntries
import ClientWiring.Proofs.Tls.Material

/-!
# What the client library gets of a client

The library gets entries only, so the bundle of a client is expanded into entries when the client is
made.  For every key, the entry of the bundle comes before the one of the client:

    (c.config fs).answer = .ok m →
      m.get? key = (c.tls.bind (bundleEntry · key)).or (c.get? key)

Two settings of a bundle have no entry; they are reported when they say something.  So each setting
that says more than a bundle without material is either in the entries or in the log.  A file that
cannot be opened is the only reason to fail, and then nothing is logged       (config_expands_bundle).
-/

namespace ClientWiring.Kafka.Client

open Tls (Setting)

/-! ## The two sides of a bundle -/

/-- The entry that a bundle has for a key. -/
def bundleEntry (b : Tls.Bundle) (key : String) : Option String :=
  match key with
  | "ssl.ca.location" => b.stores.authority
  | "ssl.certificate.location" => b.stores.certificate
  | "ssl.key.location" => b.stores.key
  | "ssl.key.password" => b.stores.keyPassword.map Secret.exposed
  | "ssl.endpoint.identification.algorithm" => if b.stores.verifyHostname then none else some "none"
  | "ssl.cipher.suites" => b.options.ciphers.map (":".intercalate ·)
  | _ => none

/-- Where a setting of a bundle goes: into an entry, or under this name into a warning. -/
def destination : Setting → String ⊕ String
  | .authority => .inl "ssl.ca.location"
  | .certificate => .inl "ssl.certificate.location"
  | .key => .inl "ssl.key.location"
  | .keyPassword => .inl "ssl.key.password"
  | .verifyHostname => .inl "ssl.endpoint.identification.algorithm"
  | .ciphers => .inl "ssl.cipher.suites"
  | .enabledProtocols => .inr "enabled_protocols"
  | .protocol => .inr "protocol"

/-- The warning that the client library has no use for a setting of a bundle. -/
def unsupported (b : Tls.Bundle) (setting : String) : LogEntry :=
  .event .warn "SSL bundle setting is not supported by librdkafka, ignored"
    [("bundle", b.name), ("setting", setting)]

/-- A setting is not lost: its entry has the value of the bundle, or a warning names it. -/
def Expressed (b : Tls.Bundle) (m : SortedMap String) (log : List LogEntry) (s : Setting) : Prop :=
  match destination s with
  | .inl key => ∃ value, bundleEntry b key = some value ∧ m.get? key = some value
  | .inr name => unsupported b name ∈ log

/-- The warnings about a bundle: its enabled protocols if there are any, then its protocol unless that
is TLS, in whatever case. -/
def bundleWarnings (b : Tls.Bundle) : List LogEntry :=
  (if b.options.enabledProtocols.isSome then [unsupported b "enabled_protocols"] else []) ++
    (if b.protocol.toLower = "tls" then [] else [unsupported b "protocol"])

/-- What the client library gets of a client, and what is logged about it. -/
structure Expands (fs : FileSystem) (c : Client) (x : Logged (SortedMap String)) : Prop where
  /-- It fails just at the first file of the bundle that cannot be opened. -/
  fails : ∀ e, x.answer = .error e ↔
    ∃ b why, c.tls = some b ∧ b.stores.FirstFault fs why ∧ e = .io (.cannotOpen why)
  /-- With an error there are no warnings. -/
  silent : ∀ e, x.answer = .error e → x.log = []
  /-- The entries of the bundle lie over those of the client, and nothing else changes. -/
  entries : ∀ m, x.answer = .ok m →
    ∀ key, m.get? key = (c.tls.bind fun b => bundleEntry b key).or (c.get? key)
  /-- The bundle is not told in the older form. -/
  older : ∀ m, x.answer = .ok m →
    m.get? "ssl.engine.factory.class" = c.get? "ssl.engine.factory.class" ∧
      m.get? "SslBundle" = c.get? "SslBundle"
  warned : ∀ m, x.answer = .ok m → x.log = c.tls.elim [] bundleWarnings
  /-- What a bundle says beyond one without material is not lost. -/
  complete : ∀ m b, x.answer = .ok m → c.tls = some b →
    ∀ s, b.Departs s → Expressed b m x.log s

/-! ## Lemmas -/

theorem firstEntry_bundleEntries (b : Tls.Bundle) (key : String) :
    firstEntry key (bundleEntries b).reverse = bundleEntry b key := by
  unfold bundleEntry
  split <;> simp_all [bundleEntries, firstEntry_cons]

theorem get?_expanded (entries : SortedMap String) (b : Tls.Bundle) (key : String) :
    (overlay entries (bundleEntries b)).get? key =
      (bundleEntry b key).or (entries.get? key) := by
  rw [get?_overlay, firstEntry_bundleEntries]

theorem ignoredSetting_eq (b : Tls.Bundle) : ignoredSetting b = unsupported b := rfl

theorem map_ignoredSetting_inexpressible (b : Tls.Bundle) :
    (inexpressible b).map (ignoredSetting b) = bundleWarnings b := by
  have hprotocol : b.hasDefaultProtocol = decide (Text.lower b.protocol = "tls") := rfl
  unfold inexpressible bundleWarnings
  rw [hprotocol, Text.lower_eq_toLower, ignoredSetting_eq, List.map_append]
  congr 1
  · cases b.options.enabledProtocols <;> rfl
  · by_cases h : b.protocol.toLower = "tls" <;> simp [h]

/-- A setting that departs has a value for its entry, or is named in a warning. -/
theorem expressed_of_departs {b : Tls.Bundle} {m : SortedMap String}
    (hentries : ∀ key value, bundleEntry b key = some value → m.get? key = some value)
    {s : Setting} (hdeparts : b.Departs s) : Expressed b m (bundleWarnings b) s := by
  have hentry : ∀ key, bundleEntry b key ≠ none →
      ∃ value, bundleEntry b key = some value ∧ m.get? key = some value := by
    intro key hkey
    obtain ⟨value, hvalue⟩ := Option.ne_none_iff_exists'.mp hkey
    exact ⟨value, hvalue, hentries key value hvalue⟩
  cases s with
  | authority => exact hentry _ hdeparts
  | certificate => exact hentry _ hdeparts
  | key => exact hentry _ hdeparts
  | keyPassword => exact hentry _ fun h => hdeparts (Option.map_eq_none_iff.mp h)
  | verifyHostname =>
    have hoff : bundleEntry b "ssl.endpoint.identification.algorithm" = some "none" := if_neg hdeparts
    exact ⟨"none", hoff, hentries _ _ hoff⟩
  | ciphers => exact hentry _ fun h => hdeparts (Option.map_eq_none_iff.mp h)
  | enabledProtocols =>
    show unsupported b "enabled_protocols" ∈ bundleWarnings b
    rw [bundleWarnings, if_pos (Option.isSome_iff_ne_none.mpr hdeparts)]
    exact List.mem_append_left _ (List.mem_singleton.mpr rfl)
  | protocol =>
    show unsupported b "protocol" ∈ bundleWarnings b
    have hother : ¬ b.protocol.toLower = "tls" := by
      rw [← Text.lower_eq_toLower]
      exact hdeparts
    rw [bundleWarnings, if_neg hother]
    exact List.mem_append_right _ (List.mem_singleton.mpr rfl)

/-! ## Main result -/

section

variable (fs : FileSystem) (c : Client)

theorem answer_config :
    (c.config fs).answer = match c.tls with
      | none => .ok c.entries
      | some b => (b.createContext fs).map fun _ => overlay c.entries (bundleEntries b) := by
  unfold config
  cases c.tls with
  | none => rfl
  | some b =>
    dsimp only
    cases b.createContext fs <;> rfl

/-- There are warnings only beside an answer. -/
theorem log_config :
    (c.config fs).log = match (c.config fs).answer with
      | .error _ => []
      | .ok _ => c.tls.elim [] bundleWarnings := by
  unfold config
  cases c.tls with
  | none => rfl
  | some b =>
    dsimp only
    cases b.createContext fs with
    | error e => rfl
    | ok context => exact map_ignoredSetting_inexpressible b

theorem config_eq_error_iff (e : AppError) :
    (c.config fs).answer = .error e ↔
      ∃ b why, c.tls = some b ∧ b.stores.FirstFault fs why ∧ e = .io (.cannotOpen why) := by
  rw [answer_config]
  cases c.tls with
  | none => simp
  | some b =>
    have hcontext : (b.createContext fs).map (fun _ => overlay c.entries (bundleEntries b)) =
        .error e ↔ b.createContext fs = .error e := by
      cases b.createContext fs <;> simp [Except.map]
    simp only [hcontext, Tls.Bundle.createContext_eq_error_iff, Option.some.injEq,
      exists_and_left, exists_eq_left']

theorem get?_config {m : SortedMap String} (hok : (c.config fs).answer = .ok m) (key : String) :
    m.get? key = (c.tls.bind fun b => bundleEntry b key).or (c.get? key) := by
  rw [answer_config] at hok
  cases htls : c.tls with
  | none =>
    rw [htls] at hok
    cases hok
    rfl
  | some b =>
    simp only [htls] at hok
    cases hcontext : b.createContext fs with
    | error e =>
      rw [hcontext] at hok
      cases hok
    | ok context =>
      rw [hcontext] at hok
      cases hok
      exact get?_expanded c.entries b key

/-- The client library gets the entries of the client under those of its bundle, or else the error of
the first file of the bundle that cannot be opened; and nothing that the bundle says is lost. -/
theorem config_expands_bundle : c.Expands fs (c.config fs) where
  fails := config_eq_error_iff fs c
  silent e herror := by rw [log_config, herror]
  entries m hok := get?_config fs c hok
  older m hok := by
    constructor <;> rw [get?_config fs c hok] <;> cases c.tls <;> rfl
  warned m hok := by rw [log_config, hok]
  complete m b hok htls s hdeparts := by
    have hentries : ∀ key value, bundleEntry b key = some value → m.get? key = some value := by
      intro key value hvalue
      rw [get?_config fs c hok, htls, Option.bind_some, hvalue, Option.some_or]
    rw [log_config, hok, htls]
    exact expressed_of_departs hentries hdeparts

end

/-- Authorities in a file, and one version of the protocol. -/
def pinnedBundle : Tls.Bundle :=
  { Tls.Bundle.systemDefault with
    name := "pem"
    stores := { Tls.Stores.none with authority := some "/etc/ssl/ca.pem" }
    protocol := "TLSv1.3" }

/-- The file becomes an entry and the version a warning; where the file may not be read there is
neither. -/
example :
    let c : Client := { Client.empty with tls := some pinnedBundle }
    let expanded := c.config (.ofFiles [("/etc/ssl/ca.pem", "")])
    expanded.answer = .ok (.ofList [("ssl.ca.location", "/etc/ssl/ca.pem")]) ∧
      expanded.log =
        [.event .warn "SSL bundle setting is not supported by librdkafka, ignored"
          [("bundle", "pem"), ("setting", "protocol")]] ∧
      (c.config .locked).answer = .error (.io (.cannotOpen (.refused .permissionDenied))) ∧
      (c.config .locked).log = [] :=
  ⟨rfl, rfl, rfl, rfl⟩

end ClientWiring.Kafka.Client
