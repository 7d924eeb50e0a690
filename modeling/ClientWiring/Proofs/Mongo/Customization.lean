import ClientWiring.Proofs.Mongo.Sources
import ClientWiring.Proofs.Tls.Lookup
import ClientWiring.Proofs.Tls.Material

/-!
# What the standard customizer does to the settings

A call of the standard customizer has one of three outcomes (outcome_apply):

    failed     connection string and UUID representation are set, and TLS is not touched
    plain      the same, when the source wants no TLS
    secured    the same, and TLS is switched on with the material of a bundle

So a call that fails is not taken back whole: what it leaves differs from what it found unless both
were set before                                                     (failed_apply_unchanged_iff).  TLS
alone is all or nothing: after any calls, whether or not they failed, it is untouched or holds the
material of one bundle, the one of the last call that secured it          (run_decides_tls).
-/

namespace ClientWiring.Mongo

/-! ## What a source asks for -/

/-- TLS is wanted, with the bundle of this name. -/
def Names (tls : MongoTlsSettings) (name : String) : Prop :=
  tls.enabled = true ∧ tls.bundle = some name ∧ name ≠ ""

theorem bundleName_eq_some_iff (tls : MongoTlsSettings) (name : String) :
    bundleName tls = some name ↔ tls.bundle = some name ∧ name ≠ "" := by
  simp [bundleName, Option.filter_eq_some_iff]

namespace Source

/-- A source has a bundle: its details bring one, or TLS is wanted with one that is registered. -/
inductive Brings : Source → Tls.Bundle → Prop
  | details {d b} (hbundle : d.bundle = some b) : Brings (.details d) b
  | direct {a tls registry name b} (hnames : Names tls name)
      (hregistered : Tls.registered? registry name = some b) : Brings (.direct a tls registry) b

/-- A source leaves TLS alone: its details bring no bundle, or TLS is switched off. -/
inductive WantsNoTls : Source → Prop
  | details {d} (hbundle : d.bundle = none) : WantsNoTls (.details d)
  | direct {a tls registry} (hdisabled : tls.enabled = false) : WantsNoTls (.direct a tls registry)

/-- A source wants TLS and has no bundle for it. -/
inductive Lacks : Source → AppError → Prop
  | unnamed {a tls registry} (hnameless : Nameless tls) : Lacks (.direct a tls registry) .noMongoBundle
  | unregistered {a tls registry name} (hnames : Names tls name)
      (hmissing : Tls.registered? registry name = none) :
      Lacks (.direct a tls registry) (Tls.unresolved registry name)

theorem not_brings_of_wantsNoTls {source : Source} (h : source.WantsNoTls) (b : Tls.Bundle) :
    ¬ source.Brings b := by
  intro hbrings
  cases h with
  | details hbundle =>
    cases hbrings with
    | details hother => rw [hbundle] at hother; cases hother
  | direct hdisabled =>
    cases hbrings with
    | direct hnames _ =>
      have henabled := hnames.1
      rw [hdisabled] at henabled
      cases henabled

/-- What a source asks for, by what comes of looking for its bundle. -/
inductive Finds (source : Source) : Except AppError (Option Tls.Bundle) → Prop
  | lacking {e} (hlacks : source.Lacks e) : Finds source (.error e)
  | plain (hplain : source.WantsNoTls) : Finds source (.ok none)
  | bundle {b} (hbrings : source.Brings b) : Finds source (.ok (some b))

theorem finds_bundle (source : Source) : source.Finds source.bundle := by
  cases source with
  | details d =>
    show (Source.details d).Finds (.ok d.bundle)
    cases hbundle : d.bundle with
    | none => exact .plain (.details hbundle)
    | some b => exact .bundle (.details hbundle)
  | direct a tls registry =>
    simp only [bundle]
    cases henabled : tls.enabled with
    | false => exact .plain (.direct henabled)
    | true =>
      cases hname : bundleName tls with
      | none =>
        rw [if_pos rfl, directBundle_of_unnamed registry hname]
        exact .lacking (.unnamed ⟨henabled, (bundleName_eq_none_iff tls).mp hname⟩)
      | some name =>
        have hnames : Names tls name := ⟨henabled, (bundleName_eq_some_iff tls name).mp hname⟩
        rw [if_pos rfl, directBundle_of_named registry hname]
        cases hfound : Tls.resolve registry name with
        | error e =>
          obtain ⟨hmissing, rfl⟩ := (Tls.resolve_eq_error_iff registry name e).mp hfound
          exact .lacking (.unregistered hnames hmissing)
        | ok b =>
          exact .bundle (.direct hnames ((Tls.resolve_eq_ok_iff registry name b).mp hfound))

end Source

/-! ## One call -/

/-- Why the standard customizer fails: there is no bundle, or it restricts the handshake, or one of its
files cannot be opened. -/
inductive Fault (fs : FileSystem) (source : Source) : AppError → Prop
  | lacking {e} (hlacks : source.Lacks e) : Fault fs source e
  | restricted {b} (hbrings : source.Brings b) (hrestricted : b.options.isSpecified = true) :
      Fault fs source .mongoTlsOptions
  | unreadable {b why} (hbrings : source.Brings b) (hfree : b.options.isSpecified = false)
      (hfirst : b.stores.FirstFault fs why) : Fault fs source (.io (.cannotOpen why))

namespace Standard

/-- The settings with the connection string and the representation of a customizer. -/
def addressed (c : Standard) (s : ClientSettings) : ClientSettings :=
  { s with uuid := some c.uuid, address := some c.source.address }

/-- What comes of a call. -/
inductive Outcome (fs : FileSystem) (c : Standard) (s : ClientSettings) :
    ClientSettings × Except AppError Unit → Prop
  | failed {e} (hfault : Fault fs c.source e) : Outcome fs c s (c.addressed s, .error e)
  | plain (hplain : c.source.WantsNoTls) : Outcome fs c s (c.addressed s, .ok ())
  | secured {b} (hbrings : c.source.Brings b) (hfree : b.options.isSpecified = false)
      (hopen : b.stores.Open fs) :
      Outcome fs c s
        ({ c.addressed s with tls := ⟨some true, some ⟨b.protocol, b.stores⟩⟩ }, .ok ())

theorem outcome_apply (fs : FileSystem) (c : Standard) (s : ClientSettings) :
    c.Outcome fs s (c.apply fs s) := by
  have hfinds := c.source.finds_bundle
  unfold apply
  generalize c.source.bundle = found at hfinds ⊢
  cases hfinds with
  | lacking hlacks => exact .failed (.lacking hlacks)
  | plain hplain => exact .plain hplain
  | @bundle b hbrings =>
    show c.Outcome fs s ((c.addressed s).changeTls (useBundle fs b))
    unfold ClientSettings.changeTls useBundle
    cases hfree : b.options.isSpecified with
    | true => exact .failed (.restricted hbrings hfree)
    | false =>
      cases hcontext : b.createContext fs with
      | error e =>
        obtain ⟨why, hfirst, rfl⟩ := (b.createContext_eq_error_iff fs e).mp hcontext
        exact .failed (.unreadable hbrings hfree hfirst)
      | ok context =>
        obtain ⟨rfl, hopen⟩ := (b.createContext_eq_ok_iff_open fs context).mp hcontext
        exact .secured hbrings hfree hopen

theorem addressed_eq_iff (c : Standard) (s : ClientSettings) :
    c.addressed s = s ↔ s.uuid = some c.uuid ∧ s.address = some c.source.address := by
  constructor
  · intro h
    rw [← h]
    exact ⟨rfl, rfl⟩
  · rintro ⟨huuid, haddress⟩
    rw [addressed, ← huuid, ← haddress]

/-- A call that fails leaves TLS and the application name alone.  Connection string and representation
it has set by then, so it leaves the settings as they were only if both were set so before. -/
theorem failed_apply_unchanged_iff {fs : FileSystem} {c : Standard} {s : ClientSettings} {e : AppError}
    (hfails : (c.apply fs s).2 = .error e) :
    Fault fs c.source e ∧
      (c.apply fs s).1.tls = s.tls ∧ (c.apply fs s).1.applicationName = s.applicationName ∧
      (c.apply fs s).1.uuid = some c.uuid ∧ (c.apply fs s).1.address = some c.source.address ∧
      ((c.apply fs s).1 = s ↔ s.uuid = some c.uuid ∧ s.address = some c.source.address) := by
  have houtcome := c.outcome_apply fs s
  generalize c.apply fs s = left at hfails houtcome ⊢
  cases houtcome with
  | failed hfault =>
    cases hfails
    exact ⟨hfault, rfl, rfl, rfl, rfl, c.addressed_eq_iff s⟩
  | plain hplain => cases hfails
  | secured hbrings hfree hopen => cases hfails

/-- TLS with a named bundle, and no registry in which it could be found. -/
def registryless : Standard :=
  { source := .direct tlsAddress ⟨true, some "pem"⟩ none, uuid := .standard, rank := 0 }

/-- The representation that was set before is lost. -/
theorem failed_apply_unchanged_iff_registryless :
    (registryless.apply (.ofFiles []) { ClientSettings.empty with uuid := some .javaLegacy }).2 =
        .error (.noRegistry "pem") ∧
      (registryless.apply (.ofFiles []) { ClientSettings.empty with uuid := some .javaLegacy }).1.uuid =
        some .standard := by
  have hfails : (registryless.apply (.ofFiles []) { ClientSettings.empty with uuid := some .javaLegacy }).2 =
      .error (.noRegistry "pem") := rfl
  obtain ⟨-, -, -, huuid, -⟩ := failed_apply_unchanged_iff hfails
  exact ⟨hfails, huuid⟩

/-- Details with a bundle that names a cipher. -/
def cipherDetails : Standard :=
  { source := .details
      { address := tlsAddress
        bundle := some { Tls.Bundle.systemDefault with options := ⟨some ["AES"], none⟩ } }
    uuid := .standard
    rank := 0 }

/-- A call that fails on fresh settings, which are not fresh any more. -/
theorem failed_apply_changes :
    (cipherDetails.apply (.ofFiles []) .empty).2 = .error .mongoTlsOptions ∧
      (cipherDetails.apply (.ofFiles []) .empty).1.uuid = some .standard ∧
      (cipherDetails.apply (.ofFiles []) .empty).1.address = some tlsAddress ∧
      (cipherDetails.apply (.ofFiles []) .empty).1 ≠ .empty :=
  ⟨rfl, rfl, rfl, by decide⟩

end Standard

/-! ## Runs of calls -/

/-- A call in a run: the files at its time, the customizer, and the settings before and after it. -/
structure Call where
  files : FileSystem
  customizer : Standard
  before : ClientSettings
  answer : Except AppError Unit
  after : ClientSettings

/-- A call on settings. -/
def Standard.call (fs : FileSystem) (c : Standard) (s : ClientSettings) : Call :=
  ⟨fs, c, s, (c.apply fs s).2, (c.apply fs s).1⟩

/-- Calls one after the other on the same settings.  A call that fails does not end the run. -/
def runAll : ClientSettings → List (FileSystem × Standard) → List Call
  | _, [] => []
  | s, (fs, c) :: rest => c.call fs s :: runAll (c.call fs s).after rest

namespace Call

/-- The call had a bundle and succeeded. -/
def Secures (x : Call) (b : Tls.Bundle) : Prop :=
  x.customizer.source.Brings b ∧ x.answer = .ok ()

/-- The call wanted no TLS, or it failed. -/
def Spares (x : Call) : Prop :=
  x.customizer.source.WantsNoTls ∨ ∃ e, x.answer = .error e

theorem not_secures_of_spares {x : Call} (h : x.Spares) (b : Tls.Bundle) : ¬ x.Secures b := by
  rintro ⟨hbrings, hok⟩
  rcases h with hplain | ⟨e, herror⟩
  · exact Source.not_brings_of_wantsNoTls hplain b hbrings
  · rw [hok] at herror
    cases herror

end Call

/-- TLS is on with the material of a bundle that restricts nothing and whose files could be opened. -/
structure HoldsMaterial (fs : FileSystem) (b : Tls.Bundle) (t : TlsState) : Prop where
  enabled : t.enabled = some true
  context : t.context = some ⟨b.protocol, b.stores⟩
  unrestricted : b.options.ciphers = none ∧ b.options.enabledProtocols = none
  authority : ∀ path, b.stores.authority = some path → fs.openFile path = .ok ()
  certificate : ∀ path, b.stores.certificate = some path → fs.openFile path = .ok ()
  key : ∀ path, b.stores.key = some path → fs.openFile path = .ok ()

/-- A call spares TLS and leaves it as it was, or it secures TLS with its bundle. -/
theorem Standard.spares_or_secures_call (fs : FileSystem) (c : Standard) (s : ClientSettings) :
    (c.call fs s).Spares ∧ (c.call fs s).after.tls = s.tls ∨
      ∃ b, (c.call fs s).Secures b ∧ HoldsMaterial fs b (c.call fs s).after.tls := by
  have houtcome := c.outcome_apply fs s
  unfold call Call.Spares Call.Secures
  generalize c.apply fs s = left at houtcome ⊢
  cases houtcome with
  | failed hfault => exact .inl ⟨.inr ⟨_, rfl⟩, rfl⟩
  | plain hplain => exact .inl ⟨.inl hplain, rfl⟩
  | @secured b hbrings hfree hopen =>
    exact .inr ⟨b, ⟨hbrings, rfl⟩, rfl, rfl, b.options.isSpecified_eq_false_iff.mp hfree,
      hopen.authority, hopen.certificate, hopen.key⟩

/-- What calls on fresh settings make of TLS: nothing as long as none of them secures it, or else what
the last one made that did. -/
inductive Decided (calls : List Call) (t : TlsState) : Prop
  | untouched (hnone : ∀ x ∈ calls, ∀ b, ¬ x.Secures b) (henabled : t.enabled = none)
      (hcontext : t.context = none)
  | secured {earlier x later b} (hcalls : calls = earlier ++ x :: later) (hsecures : x.Secures b)
      (hlast : ∀ y ∈ later, ∀ b, ¬ y.Secures b) (hmaterial : HoldsMaterial x.files b t)

/-- Another call that spares TLS changes nothing about it. -/
theorem Decided.concat_of_spares {calls : List Call} {t : TlsState} {x : Call} (h : Decided calls t)
    (hspares : x.Spares) : Decided (calls ++ [x]) t := by
  have hnot : ∀ y, y ∈ [x] → ∀ b, ¬ y.Secures b := by
    intro y hy
    rw [List.mem_singleton.mp hy]
    exact Call.not_secures_of_spares hspares
  cases h with
  | untouched hnone henabled hcontext =>
    refine .untouched (fun y hy => ?_) henabled hcontext
    exact (List.mem_append.mp hy).elim (hnone y) (hnot y)
  | @secured earlier z later b hcalls hsecures hlast hmaterial =>
    have hsplit : calls ++ [x] = earlier ++ z :: (later ++ [x]) := by
      rw [hcalls, List.append_assoc, List.cons_append]
    refine .secured hsplit hsecures (fun y hy => ?_) hmaterial
    exact (List.mem_append.mp hy).elim (hlast y) (hnot y)

/-- The step of a run. -/
theorem Decided.concat_call {calls : List Call} {s : ClientSettings} (h : Decided calls s.tls)
    (fs : FileSystem) (c : Standard) :
    Decided (calls ++ [c.call fs s]) (c.call fs s).after.tls ∧
      ((c.call fs s).Spares → (c.call fs s).after.tls = (c.call fs s).before.tls) := by
  rcases c.spares_or_secures_call fs s with ⟨hspares, hkept⟩ | ⟨b, hsecures, hmaterial⟩
  · rw [hkept]
    exact ⟨h.concat_of_spares hspares, fun _ => rfl⟩
  · exact ⟨.secured rfl hsecures (fun y hy => absurd hy List.not_mem_nil) hmaterial,
      fun hspares => absurd hsecures (Call.not_secures_of_spares hspares b)⟩

theorem decided_of_runAll {calls : List Call} {s : ClientSettings} (h : Decided calls s.tls)
    {steps : List (FileSystem × Standard)} {earlier : List Call} {x : Call} {later : List Call}
    (hsplit : runAll s steps = earlier ++ x :: later) :
    Decided (calls ++ (earlier ++ [x])) x.after.tls ∧ (x.Spares → x.after.tls = x.before.tls) := by
  induction steps generalizing calls s earlier with
  | nil =>
    rw [runAll] at hsplit
    cases earlier <;> cases hsplit
  | cons step rest ih =>
    rw [runAll] at hsplit
    have hstep := h.concat_call step.1 step.2
    cases earlier with
    | nil =>
      obtain ⟨rfl, -⟩ := List.cons.inj hsplit
      exact hstep
    | cons y earlier =>
      obtain ⟨rfl, hrest⟩ := List.cons.inj hsplit
      have hlater := ih hstep.1 hrest
      rwa [List.append_assoc] at hlater

/-- After every call of a run on fresh settings, TLS is untouched or holds the material of the last
bundle with which a call succeeded; no other call changes it. -/
theorem run_decides_tls {steps : List (FileSystem × Standard)} {earlier : List Call} {x : Call}
    {later : List Call} (hsplit : runAll .empty steps = earlier ++ x :: later) :
    Decided (earlier ++ [x]) x.after.tls ∧ (x.Spares → x.after.tls = x.before.tls) :=
  decided_of_runAll (.untouched (fun _ hx => absurd hx List.not_mem_nil) rfl rfl) hsplit

/-- Details with a bundle that names a file of authorities. -/
def fileDetails : Standard :=
  { source := .details
      { address := tlsAddress
        bundle := some { Tls.Bundle.systemDefault with
          stores := { Tls.Stores.none with authority := some "/etc/ssl/ca.pem" } } }
    uuid := .standard
    rank := 0 }

/-- The file may be read at the first call and not at the second. -/
def vanishingFile : List (FileSystem × Standard) :=
  [(certifiedFiles, fileDetails), (.locked, fileDetails)]

/-- The second call fails, and TLS stays on with the material of the first. -/
theorem run_decides_tls_vanishingFile :
    ∃ first second, runAll .empty vanishingFile = [first, second] ∧
      second.answer = .error (.io (.cannotOpen (.refused .permissionDenied))) ∧
      Decided [first, second] second.after.tls ∧ second.after.tls = first.after.tls ∧
      second.after.tls.enabled = some true := by
  obtain ⟨first, second, hrun, hfails, hbefore, hon⟩ :
      ∃ first second, runAll .empty vanishingFile = [first, second] ∧
        second.answer = .error (.io (.cannotOpen (.refused .permissionDenied))) ∧
        second.before = first.after ∧
        second.before.tls.enabled = some true := by
    exact ⟨_, _, rfl, rfl, rfl, rfl⟩
  have hsplit : runAll .empty vanishingFile = [first] ++ second :: [] := hrun
  obtain ⟨hdecided, hkept⟩ := run_decides_tls hsplit
  have hsame := hkept (.inr ⟨_, hfails⟩)
  refine ⟨first, second, hrun, hfails, hdecided, ?_, ?_⟩
  · rw [hsame, hbefore]
  · rw [hsame, hon]

end ClientWiring.Mongo
