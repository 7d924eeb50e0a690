import ClientWiring.Mongo.DriverOptions

/-!
# Options over a connection string

The options of settings are those that the driver reads in the connection string, or those of the
server on this machine when there is none, with two exceptions: an application name that was set, and
TLS that was switched on or off.  TLS that nobody touched is not the same as TLS that was switched
off: only the first leaves to the connection string what it says about TLS.

There are no options when the driver refuses the connection string, or else when TLS is on with
certificate and key in two files; in every other case there are   (options_lie_over_reading).
-/

namespace ClientWiring.Mongo

namespace Driver

/-- The driver refuses the connection string. -/
def Refuses (driver : Driver) (s : ClientSettings) (reason : String) : Prop :=
  ∃ a, s.address = some a ∧ driver.read a = .error reason

/-- What lies under the settings: the options in the connection string, or those of the server on this
machine without one. -/
inductive Starts (driver : Driver) (s : ClientSettings) : DriverOptions → Prop
  | read {a u} (haddress : s.address = some a) (hread : driver.read a = .ok u) : Starts driver s u
  | alone (haddress : s.address = none) :
      Starts driver s
        { hosts := ["localhost:27017"], applicationName := none, defaultDatabase := none,
          replicaSet := none, tls := none, further := [] }

end Driver

/-- TLS is on with material whose certificate and key are two different files. -/
def SplitPem (s : ClientSettings) (certificate key : String) : Prop :=
  s.tls.enabled = some true ∧ ∃ c, s.tls.context = some c ∧
    c.stores.certificate = some certificate ∧ c.stores.key = some key ∧
    FileSystem.samePath certificate key = false

/-- TLS of the driver from what was said about TLS and from what it is without that. -/
inductive TlsOver (t : TlsState) (under : Option DriverTls) : Option DriverTls → Prop
  | untouched (henabled : t.enabled = none) : TlsOver t under under
  | off (henabled : t.enabled = some false) : TlsOver t under (some .disabled)
  | bare (henabled : t.enabled = some true) (hcontext : t.context = none) :
      TlsOver t under (some (.enabled none none []))
  | on {c} (henabled : t.enabled = some true) (hcontext : t.context = some c) :
      TlsOver t under
        (some (.enabled c.stores.authority (c.stores.certificate.or c.stores.key) []))

/-- The settings over the options `u`. -/
structure Overlaid (s : ClientSettings) (u o : DriverOptions) : Prop where
  /-- Only these two can change. -/
  frame : o = { u with applicationName := o.applicationName, tls := o.tls }
  applicationName : o.applicationName = s.applicationName.or u.applicationName
  tls : TlsOver s.tls u.tls o.tls

/-- When settings have options, and which. -/
structure Driver.Answers (driver : Driver) (s : ClientSettings)
    (answer : Except AppError DriverOptions) : Prop where
  /-- The connection string comes before the two files. -/
  fails : ∀ e, answer = .error e ↔
    (∃ reason, driver.Refuses s reason ∧ e = .connectionStringRefused reason) ∨
      (∀ reason, ¬ driver.Refuses s reason) ∧
        ∃ certificate key, SplitPem s certificate key ∧ e = .splitPem certificate key
  succeeds : ∀ o, answer = .ok o ↔
    ∃ u, driver.Starts s u ∧ (∀ certificate key, ¬ SplitPem s certificate key) ∧ Overlaid s u o

/-! ## Lemmas -/

theorem TlsOver.unique {t : TlsState} {under tls tls' : Option DriverTls}
    (h : TlsOver t under tls) (h' : TlsOver t under tls') : tls = tls' := by
  cases h <;> cases h' <;> simp_all

/-- There is only one way to lay settings over options. -/
theorem Overlaid.unique {s : ClientSettings} {u o o' : DriverOptions} (h : Overlaid s u o)
    (h' : Overlaid s u o') : o = o' := by
  rw [h.frame, h'.frame, h.applicationName, h'.applicationName, h.tls.unique h'.tls]

namespace DriverOptions

theorem certificateAndKey_of_split {stores : Tls.Stores} {certificate key : String}
    (hcertificate : stores.certificate = some certificate) (hkey : stores.key = some key)
    (hsplit : FileSystem.samePath certificate key = false) :
    certificateAndKey stores = .error (.splitPem certificate key) := by
  simp [certificateAndKey, hcertificate, hkey, hsplit]

/-- One file is enough unless two different ones are given. -/
theorem certificateAndKey_of_whole {stores : Tls.Stores}
    (hwhole : ∀ certificate key, stores.certificate = some certificate → stores.key = some key →
      FileSystem.samePath certificate key = true) :
    certificateAndKey stores = .ok (stores.certificate.or stores.key) := by
  unfold certificateAndKey
  cases hcertificate : stores.certificate with
  | none => cases stores.key <;> rfl
  | some certificate =>
    cases hkey : stores.key with
    | none => rfl
    | some key => simp [hwhole certificate key hcertificate hkey]

end DriverOptions

namespace Driver

open DriverOptions

section

variable (driver : Driver) (s : ClientSettings)

theorem refuses_or_starts :
    (∃ reason, driver.Refuses s reason) ∨ ∃ u, driver.Starts s u := by
  cases haddress : s.address with
  | none => exact .inr ⟨_, .alone haddress⟩
  | some a =>
    cases hread : driver.read a with
    | error reason => exact .inl ⟨reason, a, haddress, hread⟩
    | ok u => exact .inr ⟨u, .read haddress hread⟩

variable {driver s}

theorem not_refuses_of_starts {u : DriverOptions} (h : driver.Starts s u) (reason : String) :
    ¬ driver.Refuses s reason := by
  rintro ⟨a, haddress, hread⟩
  cases h with
  | read hother hok =>
    obtain rfl := Option.some.inj (haddress.symm.trans hother)
    rw [hread] at hok
    cases hok
  | alone hnone =>
    rw [hnone] at haddress
    cases haddress

theorem base_of_refuses {reason : String} (h : driver.Refuses s reason) :
    base driver s = .error (.connectionStringRefused reason) := by
  obtain ⟨a, haddress, hread⟩ := h
  simp only [base, haddress, hread]

theorem base_of_starts {u : DriverOptions} (h : driver.Starts s u) : base driver s = .ok u := by
  cases h with
  | read haddress hread => simp only [base, haddress, hread]
  | alone haddress =>
    simp only [base, haddress]
    rfl

theorem options_of_refuses {reason : String} (h : driver.Refuses s reason) :
    (driver.options s).answer = .error (.connectionStringRefused reason) := by
  rw [options, base_of_refuses h]
  rfl

theorem options_of_split {u : DriverOptions} {certificate key : String} (hstarts : driver.Starts s u)
    (hsplit : SplitPem s certificate key) :
    (driver.options s).answer = .error (.splitPem certificate key) := by
  obtain ⟨henabled, c, hcontext, hcertificate, hkey, hpaths⟩ := hsplit
  simp only [options, base_of_starts hstarts, henabled, tlsOfContext, hcontext,
    certificateAndKey_of_split hcertificate hkey hpaths, Logged.silent]

theorem options_of_whole {u : DriverOptions} (hstarts : driver.Starts s u)
    (hwhole : ∀ certificate key, ¬ SplitPem s certificate key) :
    ∃ o, (driver.options s).answer = .ok o ∧ Overlaid s u o := by
  simp only [options, base_of_starts hstarts]
  cases henabled : s.tls.enabled with
  | none => exact ⟨_, rfl, rfl, rfl, .untouched henabled⟩
  | some on =>
    cases on with
    | false => exact ⟨_, rfl, rfl, rfl, .off henabled⟩
    | true =>
      cases hcontext : s.tls.context with
      | none => exact ⟨_, rfl, rfl, rfl, .bare henabled hcontext⟩
      | some c =>
        have hfile : certificateAndKey c.stores = .ok (c.stores.certificate.or c.stores.key) := by
          refine certificateAndKey_of_whole fun certificate key hcertificate hkey => ?_
          cases hpaths : FileSystem.samePath certificate key with
          | true => rfl
          | false =>
            exact absurd ⟨henabled, c, hcontext, hcertificate, hkey, hpaths⟩ (hwhole certificate key)
        simp only [tlsOfContext, hfile]
        exact ⟨_, rfl, rfl, rfl, .on henabled hcontext⟩

variable (driver s)

/-- What comes of settings, with the one of the three reasons that applies. -/
theorem options_cases :
    (∃ reason, driver.Refuses s reason ∧
        (driver.options s).answer = .error (.connectionStringRefused reason)) ∨
      ∃ u, driver.Starts s u ∧
        ((∃ certificate key, SplitPem s certificate key ∧
            (driver.options s).answer = .error (.splitPem certificate key)) ∨
          (∀ certificate key, ¬ SplitPem s certificate key) ∧
            ∃ o, (driver.options s).answer = .ok o ∧ Overlaid s u o) := by
  rcases driver.refuses_or_starts s with ⟨reason, hrefuses⟩ | ⟨u, hstarts⟩
  · exact .inl ⟨reason, hrefuses, options_of_refuses hrefuses⟩
  · refine .inr ⟨u, hstarts, ?_⟩
    by_cases hsplit : ∃ certificate key, SplitPem s certificate key
    · obtain ⟨certificate, key, hsplit⟩ := hsplit
      exact .inl ⟨certificate, key, hsplit, options_of_split hstarts hsplit⟩
    · have hwhole : ∀ certificate key, ¬ SplitPem s certificate key :=
        fun certificate key h => hsplit ⟨certificate, key, h⟩
      exact .inr ⟨hwhole, options_of_whole hstarts hwhole⟩

theorem options_eq_error_iff (e : AppError) :
    (driver.options s).answer = .error e ↔
      (∃ reason, driver.Refuses s reason ∧ e = .connectionStringRefused reason) ∨
        (∀ reason, ¬ driver.Refuses s reason) ∧
          ∃ certificate key, SplitPem s certificate key ∧ e = .splitPem certificate key := by
  constructor
  · intro hfails
    rcases driver.options_cases s with ⟨reason, hrefuses, hanswer⟩ | ⟨u, hstarts, hcases⟩
    · rw [hanswer] at hfails
      exact .inl ⟨reason, hrefuses, (Except.error.inj hfails).symm⟩
    · refine .inr ⟨not_refuses_of_starts hstarts, ?_⟩
      rcases hcases with ⟨certificate, key, hsplit, hanswer⟩ | ⟨-, o, hanswer, -⟩
      · rw [hanswer] at hfails
        exact ⟨certificate, key, hsplit, (Except.error.inj hfails).symm⟩
      · rw [hanswer] at hfails
        cases hfails
  · rintro (⟨reason, hrefuses, rfl⟩ | ⟨hread, certificate, key, hsplit, rfl⟩)
    · exact options_of_refuses hrefuses
    · rcases driver.refuses_or_starts s with ⟨reason, hrefuses⟩ | ⟨u, hstarts⟩
      · exact absurd hrefuses (hread reason)
      · exact options_of_split hstarts hsplit

theorem options_eq_ok_iff (o : DriverOptions) :
    (driver.options s).answer = .ok o ↔
      ∃ u, driver.Starts s u ∧ (∀ certificate key, ¬ SplitPem s certificate key) ∧
        Overlaid s u o := by
  constructor
  · intro hok
    rcases driver.options_cases s with ⟨reason, -, hanswer⟩ | ⟨u, hstarts, hcases⟩
    · rw [hanswer] at hok
      cases hok
    · rcases hcases with ⟨certificate, key, -, hanswer⟩ | ⟨hwhole, o', hanswer, hover⟩
      · rw [hanswer] at hok
        cases hok
      · rw [hanswer] at hok
        cases hok
        exact ⟨u, hstarts, hwhole, hover⟩
  · rintro ⟨u, hstarts, hwhole, hover⟩
    obtain ⟨o', hanswer, hover'⟩ := options_of_whole hstarts hwhole
    rw [hanswer, hover.unique hover']

/-- Settings have options unless the driver refuses their connection string, or else their certificate
and key are in two files; the options are those that lie under the settings, overlaid by them. -/
theorem options_lie_over_reading : driver.Answers s (driver.options s).answer where
  fails := driver.options_eq_error_iff s
  succeeds := driver.options_eq_ok_iff s

end

end Driver

end ClientWiring.Mongo
