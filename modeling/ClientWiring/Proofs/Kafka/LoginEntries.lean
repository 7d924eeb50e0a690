import ClientWiring.Proofs.Kafka.RoleEntries
import ClientWiring.Proofs.Text.Marks

/-!
# What a login adds to a client

A login adds the entries of its family, which is told by the last part of the class name:

    Krb5LoginModule           sasl.mechanism, sasl.kerberos.{keytab, principal, service.name}
    PlainLoginModule          sasl.mechanism, sasl.username, sasl.password
    ScramLoginModule          the same, with another mechanism
    OAuthBearerLoginModule    sasl.mechanism, sasl.oauthbearer.config

Apart from the mechanism each of them stands for an option and is there only with it.  An entry is added
only where the client has none:

    (l.apply c).get? key = (c.get? key).or (derivedEntry l.loginModule l.options key)

and from this one law it follows that nothing is replaced, that a second login adds nothing, and that it
does not matter whether the client is connected before or after                    (adds_apply).
-/

namespace ClientWiring.Kafka

namespace Login

/-! ## The last part of a class name -/

/-- The class of the login module has this name, whatever package it is in. -/
def Named (l : Login) (name : String) : Prop :=
  '.' ∉ name.toList ∧ (l.loginModule = name ∨ ∃ package, l.loginModule = package ++ "." ++ name)

theorem lastPart_of_notMem {name : String} (h : '.' ∉ name.toList) : lastPart name = name := by
  rw [lastPart, Text.splitOn_of_notMem h]
  exact String.ofList_toList

theorem lastPart_append {name : String} (h : '.' ∉ name.toList) (package : String) :
    lastPart (package ++ "." ++ name) = name := by
  have hpoint : (package ++ "." ++ name).toList = package.toList ++ '.' :: name.toList := by simp
  rw [lastPart, hpoint, List.splitOn_append_cons_self, Text.splitOn_of_notMem h,
    List.getLastD_concat, String.ofList_toList]

/-- The last part begins behind the last point, or at the front if there is none. -/
theorem lastPart_eq_iff (l : Login) (name : String) :
    lastPart l.loginModule = name ↔ l.Named name := by
  constructor
  · rintro rfl
    by_cases hpoint : '.' ∈ l.loginModule.toList
    · obtain ⟨front, back, hsplit, hback⟩ := Text.exists_last_mark hpoint
      have hmodule : l.loginModule = String.ofList front ++ "." ++ String.ofList back := by
        apply String.toList_injective
        rw [hsplit]
        simp
      have hname : '.' ∉ (String.ofList back).toList := by rwa [String.toList_ofList]
      rw [hmodule, lastPart_append hname]
      exact ⟨hname, .inr ⟨_, hmodule⟩⟩
    · rw [lastPart_of_notMem hpoint]
      exact ⟨hpoint, .inl rfl⟩
  · rintro ⟨hpoint, hname | ⟨package, hname⟩⟩
    · rw [hname, lastPart_of_notMem hpoint]
    · rw [hname, lastPart_append hpoint]

/-! ## What belongs to a login -/

/-- The entries that belong to a login, each with its value. -/
inductive Derives (l : Login) : String → String → Prop
  | kerberos (hname : l.Named "Krb5LoginModule") : Derives l "sasl.mechanism" "GSSAPI"
  | keytab {path} (hname : l.Named "Krb5LoginModule")
      (hoption : l.options.get? "keyTab" = some path) : Derives l "sasl.kerberos.keytab" path
  | principal {v} (hname : l.Named "Krb5LoginModule")
      (hoption : l.options.get? "principal" = some v) : Derives l "sasl.kerberos.principal" v
  | service {v} (hname : l.Named "Krb5LoginModule")
      (hoption : l.options.get? "serviceName" = some v) : Derives l "sasl.kerberos.service.name" v
  | plain (hname : l.Named "PlainLoginModule") : Derives l "sasl.mechanism" "PLAIN"
  | scram (hname : l.Named "ScramLoginModule") : Derives l "sasl.mechanism" "SCRAM-SHA-512"
  | username {v} (hname : l.Named "PlainLoginModule" ∨ l.Named "ScramLoginModule")
      (hoption : l.options.get? "username" = some v) : Derives l "sasl.username" v
  | password {v} (hname : l.Named "PlainLoginModule" ∨ l.Named "ScramLoginModule")
      (hoption : l.options.get? "password" = some v) : Derives l "sasl.password" v
  | bearer (hname : l.Named "OAuthBearerLoginModule") : Derives l "sasl.mechanism" "OAUTHBEARER"
  | token (hname : l.Named "OAuthBearerLoginModule") (hany : l.options.pairs ≠ []) :
      Derives l "sasl.oauthbearer.config"
        (" ".intercalate (l.options.pairs.map fun p => p.1 ++ "=" ++ p.2))

/-- All entries that may belong to a login. -/
def derivedKeys : List String :=
  ["sasl.mechanism", "sasl.kerberos.keytab", "sasl.kerberos.principal", "sasl.kerberos.service.name",
   "sasl.username", "sasl.password", "sasl.oauthbearer.config"]

/-- The login modules that have entries. -/
def knownModules : List String :=
  ["Krb5LoginModule", "PlainLoginModule", "ScramLoginModule", "OAuthBearerLoginModule"]

theorem Derives.mem_derivedKeys {l : Login} {key v : String} (h : l.Derives key v) :
    key ∈ derivedKeys := by
  cases h <;> decide

section

variable {l : Login} {key v : String}

theorem derives_of_kerberosEntry (hname : l.Named "Krb5LoginModule")
    (h : kerberosEntry l.options key = some v) : l.Derives key v := by
  unfold kerberosEntry at h
  split at h
  · cases h
    exact .kerberos hname
  · exact .keytab hname h
  · exact .principal hname h
  · exact .service hname h
  · cases h

theorem derives_of_passwordEntry {mechanism : String}
    (hname : l.Named "PlainLoginModule" ∨ l.Named "ScramLoginModule")
    (hmechanism : l.Derives "sasl.mechanism" mechanism)
    (h : passwordEntry mechanism l.options key = some v) : l.Derives key v := by
  unfold passwordEntry at h
  split at h
  · cases h
    exact hmechanism
  · exact .username hname h
  · exact .password hname h
  · cases h

theorem derives_of_bearerEntry (hname : l.Named "OAuthBearerLoginModule")
    (h : bearerEntry l.options key = some v) : l.Derives key v := by
  unfold bearerEntry at h
  split at h
  · cases h
    exact .bearer hname
  · split at h
    · cases h
    · next hany =>
      cases h
      exact .token hname hany
  · cases h

end

/-- What the tables of entries have for a login is what belongs to it. -/
theorem derivedEntry_eq_some_iff (l : Login) (key v : String) :
    derivedEntry l.loginModule l.options key = some v ↔ l.Derives key v := by
  constructor
  · intro h
    unfold derivedEntry at h
    split at h
    · next hname => exact derives_of_kerberosEntry ((lastPart_eq_iff l _).mp hname) h
    · next hname =>
      have hplain := (lastPart_eq_iff l _).mp hname
      exact derives_of_passwordEntry (.inl hplain) (.plain hplain) h
    · next hname =>
      have hscram := (lastPart_eq_iff l _).mp hname
      exact derives_of_passwordEntry (.inr hscram) (.scram hscram) h
    · next hname => exact derives_of_bearerEntry ((lastPart_eq_iff l _).mp hname) h
    · cases h
  · intro h
    have hlast : ∀ {name}, l.Named name → lastPart l.loginModule = name := fun hname =>
      (lastPart_eq_iff l _).mpr hname
    unfold derivedEntry
    cases h with
    | kerberos hname => simp [hlast hname, kerberosEntry]
    | keytab hname hoption => simp [hlast hname, kerberosEntry, hoption]
    | principal hname hoption => simp [hlast hname, kerberosEntry, hoption]
    | service hname hoption => simp [hlast hname, kerberosEntry, hoption]
    | plain hname => simp [hlast hname, passwordEntry]
    | scram hname => simp [hlast hname, passwordEntry]
    | username hname hoption =>
      rcases hname with hname | hname
      · simp [hlast hname, passwordEntry, hoption]
      · simp [hlast hname, passwordEntry, hoption]
    | password hname hoption =>
      rcases hname with hname | hname
      · simp [hlast hname, passwordEntry, hoption]
      · simp [hlast hname, passwordEntry, hoption]
    | bearer hname => simp [hlast hname, bearerEntry]
    | token hname hany => simp [hlast hname, bearerEntry, hany]

/-- Nothing belongs to a login of another class. -/
theorem derivedEntry_of_unknown {l : Login} (h : ∀ name ∈ knownModules, ¬ l.Named name)
    (key : String) : derivedEntry l.loginModule l.options key = none := by
  rw [Option.eq_none_iff_forall_ne_some]
  intro v hv
  rw [derivedEntry_eq_some_iff] at hv
  have hkerberos := h "Krb5LoginModule" (by decide)
  have hplain := h "PlainLoginModule" (by decide)
  have hscram := h "ScramLoginModule" (by decide)
  have hbearer := h "OAuthBearerLoginModule" (by decide)
  cases hv with
  | kerberos hname | keytab hname | principal hname | service hname => exact hkerberos hname
  | plain hname => exact hplain hname
  | scram hname => exact hscram hname
  | username hname | password hname => exact hname.elim hplain hscram
  | bearer hname | token hname => exact hbearer hname

/-! ## Adding it to a client -/

theorem get?_apply_derived (l : Login) (c : Client) (key : String) :
    (l.apply c).get? key = (c.get? key).or (derivedEntry l.loginModule l.options key) := by
  rw [get?_apply, firstEntry_entries]

theorem apply_apply (l : Login) (c : Client) : l.apply (l.apply c) = l.apply c := by
  apply Client.ext_get?
  · rw [tls_apply]
  · intro key
    rw [get?_apply_derived, get?_apply_derived, Option.or_assoc, Option.or_self]

/-- Connecting replaces the servers and puts a protocol over the old one, and both come before what a
login has to say. -/
theorem connect_apply (l : Login) (c : Client) (e : Endpoint) :
    (l.apply c).connect e = l.apply (c.connect e) := by
  apply Client.ext_get?
  · rw [tls_apply, Client.tls_connect, Client.tls_connect, tls_apply]
  · intro key
    rw [get?_apply_derived, Client.get?_connect, Client.get?_connect, get?_apply_derived]
    by_cases hservers : key = Client.serversKey
    · rw [if_pos hservers, if_pos hservers, Option.some_or]
    · rw [if_neg hservers, if_neg hservers]
      by_cases hprotocol : key = Client.protocolKey
      · rw [if_pos hprotocol, if_pos hprotocol, Option.or_assoc]
      · rw [if_neg hprotocol, if_neg hprotocol]

/-- What a login does to a client. -/
structure Adds (l : Login) (c : Client) : Prop where
  /-- Entries that are there stay. -/
  kept : ∀ key v, c.get? key = some v → (l.apply c).get? key = some v
  /-- The bundle stays. -/
  bundle : (l.apply c).tls = c.tls
  /-- Where there is no entry, exactly what belongs to the login is added. -/
  added : ∀ key v, c.get? key = none → ((l.apply c).get? key = some v ↔ l.Derives key v)
  /-- All that is added is one of seven entries. -/
  among : ∀ key, c.get? key = none → key ∉ derivedKeys → (l.apply c).get? key = none
  /-- A login of another class adds nothing. -/
  unknown : (∀ name ∈ knownModules, ¬ l.Named name) → l.apply c = c
  /-- A second time nothing is added. -/
  again : l.apply (l.apply c) = l.apply c
  /-- The client can be connected before or after. -/
  connect : ∀ e : Endpoint, (l.apply c).connect e = l.apply (c.connect e)

theorem adds_apply (l : Login) (c : Client) : l.Adds c where
  kept := by
    intro key v h
    rw [get?_apply_derived, h, Option.some_or]
  bundle := tls_apply l c
  added := by
    intro key v h
    rw [get?_apply_derived, h, Option.none_or, derivedEntry_eq_some_iff]
  among := by
    intro key h hkey
    rw [get?_apply_derived, h, Option.none_or, Option.eq_none_iff_forall_ne_some]
    intro v hv
    exact hkey ((derivedEntry_eq_some_iff l key v).mp hv).mem_derivedKeys
  unknown := by
    intro h
    apply Client.ext_get?
    · rw [tls_apply]
    · intro key
      rw [get?_apply_derived, derivedEntry_of_unknown h, Option.or_none]
  again := apply_apply l c
  connect := connect_apply l c

end Login

end ClientWiring.Kafka
