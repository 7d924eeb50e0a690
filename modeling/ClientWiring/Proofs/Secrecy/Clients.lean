import ClientWiring.Kafka.Entries
import ClientWiring.Kafka.Login
import ClientWiring.Proofs.Kafka.Endpoints
import ClientWiring.Proofs.Secrecy.Settings

/-!
# Clients up to their secrets

To blank a client is to blank its entries and the password of its bundle.  Blanking goes through
every step that makes a client: it makes no difference whether the settings were blanked before or
the client is blanked afterwards.

    (role.client s).blanked = role.client s.blanked                           (blanked_client)
    (l.apply c).blanked = (l.blanked.apply c.blanked).blanked                  (blanked_apply)
    inspect c.blanked = inspect c                                      (inspect_blanked_client)

A login gives options new names, so blanking has to be repeated behind it: all options together end
under one key, which is sensitive as a whole.
-/

namespace ClientWiring

open Inspect Redaction

/-! ## Bundles -/

namespace Tls

/-- A bundle with the password of its key blanked. -/
def Bundle.blanked (b : Bundle) : Bundle :=
  { b with stores := { b.stores with keyPassword := b.stores.keyPassword.map Secret.blanked } }

/-- A registry with the passwords of all keys blanked. -/
def Registry.blanked (r : Registry) : Registry := ⟨r.bundles.mapValues fun _ b => b.blanked⟩

theorem inspect_blanked_stores (b : Bundle) : inspect b.blanked.stores = inspect b.stores := by
  show record "SslStoreBundle" [_, _, _,
    field "key_password" (inspect (b.stores.keyPassword.map Secret.blanked)), _] = _
  rw [inspect_secret_blanked]
  rfl

theorem Bundle.inspect_blanked (b : Bundle) : inspect b.blanked = inspect b := by
  show record "SslBundle" [_, field "stores" (inspect b.blanked.stores), _, _] = _
  rw [inspect_blanked_stores]
  rfl

theorem resolve_blanked (registry : Option Registry) (name : String) :
    resolve (registry.map Registry.blanked) name = (resolve registry name).map Bundle.blanked := by
  cases registry with
  | none => rfl
  | some r =>
    have hget : r.blanked.bundles.get? name = (r.bundles.get? name).map Bundle.blanked :=
      SortedMap.get?_mapValues (fun _ => Bundle.blanked) r.bundles name
    show r.blanked.get name = (r.get name).map Bundle.blanked
    unfold Registry.get
    rw [hget]
    cases r.bundles.get? name <;> rfl

theorem resolveOptional_blanked (registry : Option Registry) (name : Option String) :
    resolveOptional (registry.map Registry.blanked) name =
      (resolveOptional registry name).map (Option.map Bundle.blanked) := by
  cases name with
  | none => rfl
  | some name =>
    simp only [resolveOptional]
    rw [resolve_blanked]
    cases resolve registry name <;> rfl

end Tls

namespace Kafka

/-! ## Entries of a client -/

/-- A named value, emptied if it must not be shown. -/
def blankEntry (entry : String × Option String) : String × Option String :=
  (entry.1, entry.2.map (blank entry.1))

theorem blankEntry_of_not_sensitive {key : String} (h : isSensitive key = false)
    (value : Option String) : blankEntry (key, value) = (key, value) := by
  rw [blankEntry, map_blank_of_not_sensitive h]

namespace Client

/-- A client with sensitive entries and the password of its bundle blanked. -/
def blanked (c : Client) : Client :=
  ⟨Redaction.blanked c.entries, c.tls.map Tls.Bundle.blanked⟩

theorem inspect_blanked_client (c : Client) : inspect c.blanked = inspect c := by
  obtain ⟨entries, tls⟩ := c
  show record "ClientProperties" [field "entries" (inspectEntries (Redaction.blanked entries)), _] =
    _
  rw [inspectEntries_blanked]
  cases tls with
  | none => rfl
  | some b =>
    show record "ClientProperties"
      [_, field "tls" (wrapped "Some" (wrapped "Bundle" (inspect b.blanked)))] = _
    rw [Tls.Bundle.inspect_blanked]
    rfl

theorem blanked_set (c : Client) {key : String} (h : isSensitive key = false) (value : String) :
    (c.set key value).blanked = c.blanked.set key value := by
  have hentries := SortedMap.mapValues_insert blank c.entries key value
  rw [blank_of_not_sensitive h] at hentries
  exact congrArg (Client.mk · _) hentries

theorem blanked_setSome (c : Client) {key : String} (h : isSensitive key = false)
    (value : Option String) : (c.setSome key value).blanked = c.blanked.setSome key value := by
  have hentries := SortedMap.mapValues_insertSome blank c.entries key value
  rw [map_blank_of_not_sensitive h] at hentries
  exact congrArg (Client.mk · _) hentries

theorem blanked_setIfNew (c : Client) (key value : String) :
    (c.setIfNew key value).blanked = c.blanked.setIfNew key (blank key value) :=
  congrArg (Client.mk · _) (SortedMap.mapValues_insertIfNew blank c.entries key value)

theorem blanked_setAll (c : Client) (entries : SortedMap String) :
    (c.setAll entries).blanked = c.blanked.setAll (Redaction.blanked entries) :=
  congrArg (Client.mk · _) (SortedMap.mapValues_union blank c.entries entries)

theorem blanked_setProtocol (c : Client) (protocol : Option String) :
    (c.setProtocol protocol).blanked = c.blanked.setProtocol protocol :=
  blanked_setSome c (by decide) (nonEmpty protocol)

theorem blanked_useBundle (c : Client) (bundle : Option Tls.Bundle) :
    (c.useBundle bundle).blanked = c.blanked.useBundle (bundle.map Tls.Bundle.blanked) := by
  cases bundle <;> rfl

theorem blanked_overlay (entries : SortedMap String) (values : List (String × Option String)) :
    Redaction.blanked (overlay entries values) =
      overlay (Redaction.blanked entries) (values.map blankEntry) := by
  unfold overlay
  induction values generalizing entries with
  | nil => rfl
  | cons p rest ih =>
    rw [List.foldl_cons, ih, List.map_cons, List.foldl_cons]
    congr 1
    exact SortedMap.mapValues_insertSome blank entries p.1 p.2

theorem blanked_overlaid (c : Client) {values : List (String × Option String)}
    (h : ∀ p ∈ values, isSensitive p.1 = false) :
    (c.overlaid values).blanked = c.blanked.overlaid values := by
  have hvalues : values.map blankEntry = values := by
    conv => rhs; rw [← List.map_id values]
    exact List.map_congr_left fun p hp => blankEntry_of_not_sensitive (h p hp) p.2
  have hentries := blanked_overlay c.entries values
  rw [hvalues] at hentries
  exact congrArg (Client.mk · _) hentries

@[simp] theorem blanked_blanked (c : Client) : c.blanked.blanked = c.blanked := by
  obtain ⟨entries, tls⟩ := c
  unfold blanked
  rw [Redaction.blanked_blanked, Option.map_map]
  congr 1
  cases tls with
  | none => rfl
  | some b =>
    obtain ⟨name, ⟨authority, certificate, key, password, verify⟩, options, protocol⟩ := b
    cases password <;> rfl

end Client

/-! ## The client of a role -/

theorem Role.settings_blanked (s : KafkaSettings) (role : Role) :
    role.settings s.blanked = (role.settings s).blanked := by
  cases role <;> rfl

theorem Role.tuning_blanked (s : KafkaSettings) (role : Role) :
    role.tuning s.blanked = role.tuning s := by
  cases role <;> rfl

/-- No typed setting is sensitive. -/
theorem Role.not_sensitive_tuning (s : KafkaSettings) (role : Role) :
    ∀ p ∈ role.tuning s, isSensitive p.1 = false := by
  cases role with
  | producer =>
    simp only [tuning, producerTuning, List.forall_mem_cons]
    decide +kernel
  | consumer =>
    simp only [tuning, consumerTuning, List.forall_mem_cons]
    decide +kernel
  | admin => simp [tuning]
  | streams => simp [tuning]

theorem blanked_commonClient (s : KafkaSettings) :
    (commonClient s).blanked = commonClient s.blanked := by
  unfold commonClient
  rw [Client.blanked_setAll, Client.blanked_setProtocol, Client.blanked_setSome _ (by decide),
    Client.blanked_set _ (by decide)]
  rfl

theorem Role.blanked_client (s : KafkaSettings) (role : Role) :
    (role.client s).blanked = role.client s.blanked := by
  unfold client
  rw [Client.blanked_setAll, Client.blanked_overlaid _ (role.not_sensitive_tuning s),
    Client.blanked_setProtocol, Client.blanked_setSome _ (by decide),
    Client.blanked_setSome _ (by decide), blanked_commonClient, settings_blanked, tuning_blanked]
  rfl

/-! ## Endpoints -/

/-- An endpoint with the password of its bundle blanked. -/
def Endpoint.blanked (e : Endpoint) : Endpoint :=
  { e with bundle := e.bundle.map Tls.Bundle.blanked }

/-- Endpoints with the passwords of their bundles blanked. -/
def Endpoints.blanked (e : Endpoints) : Endpoints :=
  ⟨e.common.blanked, e.consumer.blanked, e.producer.blanked, e.admin.blanked, e.streams.blanked⟩

theorem Endpoints.of_blanked (e : Endpoints) (role : Role) :
    e.blanked.of role = (e.of role).blanked := by
  cases role <;> rfl

theorem Client.blanked_connect (c : Client) (e : Endpoint) :
    (c.connect e).blanked = c.blanked.connect e.blanked := by
  unfold connect
  rw [blanked_useBundle, blanked_setProtocol, blanked_set _ (by decide)]
  rfl

namespace Endpoints

theorem commonOfSettings_blanked (registry : Option Tls.Registry) (s : KafkaSettings) :
    commonOfSettings (registry.map Tls.Registry.blanked) s.blanked =
      (commonOfSettings registry s).map Endpoint.blanked := by
  have hresolve := Tls.resolveOptional_blanked registry s.bundle
  unfold commonOfSettings
  rw [show s.blanked.bundle = s.bundle from rfl, hresolve]
  cases Tls.resolveOptional registry s.bundle <;> rfl

theorem ofRole_blanked (registry : Option Tls.Registry) (common : Endpoint) (s : RoleSettings) :
    ofRole (registry.map Tls.Registry.blanked) common.blanked s.blanked =
      (ofRole registry common s).map Endpoint.blanked := by
  have hresolve := Tls.resolveOptional_blanked registry s.bundle
  unfold ofRole
  rw [show s.blanked.bundle = s.bundle from rfl, hresolve]
  cases Tls.resolveOptional registry s.bundle with
  | error e => rfl
  | ok bundle => cases bundle <;> rfl

/-- The same endpoints are found, or the same name is missing, whatever the secrets are. -/
theorem ofSettings_blanked (registry : Option Tls.Registry) (s : KafkaSettings) :
    ofSettings (registry.map Tls.Registry.blanked) s.blanked =
      (ofSettings registry s).map blanked := by
  have hrole : ∀ (role : Role) (common : Endpoint),
      ofRole (registry.map Tls.Registry.blanked) common.blanked (role.settings s.blanked) =
        (ofRole registry common (role.settings s)).map Endpoint.blanked := by
    intro role common
    rw [Role.settings_blanked, ofRole_blanked]
  unfold ofSettings
  rw [commonOfSettings_blanked]
  refine map_bind_eq_map _ fun common => ?_
  rw [hrole]
  refine map_bind_eq_map _ fun consumer => ?_
  rw [hrole]
  refine map_bind_eq_map _ fun producer => ?_
  rw [hrole]
  refine map_bind_eq_map _ fun admin => ?_
  rw [hrole]
  exact map_bind_eq_map _ fun streams => rfl

end Endpoints

/-! ## Logins -/

namespace Login

/-- A login with sensitive options blanked. -/
def blanked (l : Login) : Login := { l with options := Redaction.blanked l.options }

theorem inspect_blanked_login (l : Login) : inspect l.blanked = inspect l := by
  show record "KafkaJaasLoginModuleInitializer"
    [_, _, field "options" (inspectEntries (Redaction.blanked l.options))] = _
  rw [inspectEntries_blanked]
  rfl

theorem checkFile_blanked (fs : FileSystem) (options : SortedMap String) :
    checkFile fs (Redaction.blanked options) = checkFile fs options := by
  unfold checkFile
  rw [get?_blanked_of_not_sensitive options (by decide)]

/-- The login is made or refused whatever the secrets are. -/
theorem ofSettings_blanked (fs : FileSystem) (s : JaasSettings) :
    ofSettings fs s.blanked = (ofSettings fs s).map blanked := by
  unfold ofSettings setOptions
  rw [show flagOfSettings s.blanked = flagOfSettings s from rfl]
  cases flagOfSettings s with
  | error fault => rfl
  | ok flag =>
    dsimp only
    rw [show s.blanked.options = Redaction.blanked s.options from rfl, checkFile_blanked]
    cases checkFile fs s.options <;> rfl

theorem joinedOptions_blanked (options : SortedMap String) :
    blankEntry ("sasl.oauthbearer.config", joinedOptions (Redaction.blanked options)) =
      blankEntry ("sasl.oauthbearer.config", joinedOptions options) := by
  have hsensitive : isSensitive "sasl.oauthbearer.config" = true := by decide
  have hempty : (Redaction.blanked options).isEmpty = options.isEmpty := List.isEmpty_map
  unfold blankEntry joinedOptions
  rw [hempty]
  cases options.isEmpty with
  | true => rfl
  | false =>
    simp only [Bool.false_eq_true, if_false, Option.map_some, blank_of_sensitive hsensitive]

/-- An option for a sensitive entry is blanked with it. -/
theorem blankEntry_option {key option : String} (hkey : isSensitive key = true)
    (options : SortedMap String) :
    blankEntry (key, (Redaction.blanked options).get? option) =
      blankEntry (key, options.get? option) := by
  unfold blankEntry
  rw [get?_blanked, Option.map_map]
  cases options.get? option with
  | none => simp only [Option.map_none]
  | some v => simp only [Option.map_some, Function.comp_apply, blank_of_sensitive hkey]

/-- Every option that may be sensitive ends under a sensitive key. -/
theorem optionEntries_blanked (options : SortedMap String) (family : Family) :
    (family.optionEntries (Redaction.blanked options)).map blankEntry =
      (family.optionEntries options).map blankEntry := by
  have hpassword : blankEntry ("sasl.password", (Redaction.blanked options).get? "password") =
      blankEntry ("sasl.password", options.get? "password") :=
    blankEntry_option (by decide) options
  have husername : (Redaction.blanked options).get? "username" = options.get? "username" :=
    get?_blanked_of_not_sensitive options (by decide)
  cases family with
  | kerberos =>
    simp only [Family.optionEntries]
    rw [get?_blanked_of_not_sensitive options (by decide),
      get?_blanked_of_not_sensitive options (by decide),
      get?_blanked_of_not_sensitive options (by decide)]
  | plain => simp only [Family.optionEntries, List.map_cons, List.map_nil, hpassword, husername]
  | scram => simp only [Family.optionEntries, List.map_cons, List.map_nil, hpassword, husername]
  | bearer => simp only [Family.optionEntries, List.map_cons, List.map_nil, joinedOptions_blanked]

theorem entries_blanked (l : Login) :
    l.blanked.entries.map blankEntry = l.entries.map blankEntry := by
  unfold entries
  rw [show l.blanked.family? = l.family? from rfl]
  cases l.family? with
  | none => rfl
  | some family =>
    simp only [List.map_cons]
    rw [show l.blanked.options = Redaction.blanked l.options from rfl, optionEntries_blanked]

theorem blanked_addEntry (c : Client) (entry : String × Option String) :
    (addEntry c entry).blanked = addEntry c.blanked (blankEntry entry) := by
  obtain ⟨key, value⟩ := entry
  cases value with
  | none => rfl
  | some v => exact Client.blanked_setIfNew c key v

/-- By induction on the entries: whether one is there already does not depend on its value. -/
theorem blanked_foldl_addEntry (entries : List (String × Option String)) (c : Client) :
    (entries.foldl addEntry c).blanked = (entries.map blankEntry).foldl addEntry c.blanked := by
  induction entries generalizing c with
  | nil => rfl
  | cons entry rest ih =>
    rw [List.foldl_cons, ih, blanked_addEntry, List.map_cons, List.foldl_cons]

theorem blanked_apply (l : Login) (c : Client) :
    (l.apply c).blanked = (l.blanked.apply c.blanked).blanked := by
  unfold apply
  rw [blanked_foldl_addEntry, blanked_foldl_addEntry, entries_blanked, Client.blanked_blanked]

end Login

end Kafka

end ClientWiring
