import ClientWiring.Proofs.Fallible
import ClientWiring.Tls.Bundle

/-!
# The material of a bundle

A context cannot be made just when a file of the bundle cannot be opened, and the error is the one of
the first such file in the order authority, certificate, key:

    b.createContext fs = .error e ↔ ∃ why, b.stores.FirstFault fs why ∧ e = .io (.cannotOpen why)
                                                                     (createContext_eq_error_iff)

`Setting` names what a bundle can say, so that it can be asked of a client what becomes of each
setting that says more than a bundle without material.
-/

namespace ClientWiring.Tls

/-! ## Files -/

/-- A file is not given, or it can be opened. -/
def Opens (fs : FileSystem) (file : Option String) : Prop :=
  ∀ path, file = some path → fs.openFile path = .ok ()

/-- All files of a bundle can be opened. -/
structure Stores.Open (fs : FileSystem) (s : Stores) : Prop where
  authority : Opens fs s.authority
  certificate : Opens fs s.certificate
  key : Opens fs s.key

/-- A file is given and cannot be opened. -/
def CannotOpen (fs : FileSystem) (file : Option String) (why : OpenFault) : Prop :=
  ∃ path, file = some path ∧ fs.openFile path = .error why

/-- The first file of a bundle that cannot be opened: authority, then certificate, then key. -/
inductive Stores.FirstFault (fs : FileSystem) (s : Stores) (why : OpenFault) : Prop
  | authority (hfault : CannotOpen fs s.authority why)
  | certificate (hauthority : Opens fs s.authority) (hfault : CannotOpen fs s.certificate why)
  | key (hauthority : Opens fs s.authority) (hcertificate : Opens fs s.certificate)
      (hfault : CannotOpen fs s.key why)

section

variable (fs : FileSystem)

theorem openAll_append (paths more : List String) :
    openAll fs (paths ++ more) = openAll fs paths >>= fun _ => openAll fs more := by
  induction paths with
  | nil => rfl
  | cons path rest ih =>
    rw [List.cons_append, openAll, openAll, ih]
    cases fs.openFile path <;> rfl

theorem openAll_toList_eq_ok_iff (file : Option String) (u : Unit) :
    openAll fs file.toList = .ok u ↔ Opens fs file := by
  rw [openAll_eq_ok_iff]
  simp only [Option.mem_toList, Opens]

theorem openAll_toList_eq_error_iff (file : Option String) (e : AppError) :
    openAll fs file.toList = .error e ↔ ∃ why, CannotOpen fs file why ∧ e = .io (.cannotOpen why) := by
  cases file with
  | none => simp [openAll, CannotOpen]
  | some path =>
    cases hopen : fs.openFile path with
    | ok u => simp [openAll, CannotOpen, hopen]
    | error why => simp [openAll, CannotOpen, hopen, eq_comm]

/-- A context can be made just when all files can be opened, and it repeats what the bundle says. -/
theorem Bundle.createContext_eq_ok_iff_open (b : Bundle) (c : Context) :
    b.createContext fs = .ok c ↔ c = ⟨b.protocol, b.stores⟩ ∧ b.stores.Open fs := by
  have hopen : (∀ path ∈ b.stores.paths, fs.openFile path = .ok ()) ↔ b.stores.Open fs := by
    simp only [Stores.paths, List.mem_append, Option.mem_toList]
    constructor
    · intro hall
      exact ⟨fun path hpath => hall path (.inl (.inl hpath)),
        fun path hpath => hall path (.inl (.inr hpath)), fun path hpath => hall path (.inr hpath)⟩
    · rintro ⟨hauthority, hcertificate, hkey⟩ path ((hpath | hpath) | hpath)
      · exact hauthority path hpath
      · exact hcertificate path hpath
      · exact hkey path hpath
  rw [createContext_eq_ok_iff, hopen]

/-- A context cannot be made just when a file cannot be opened, and the first one decides. -/
theorem Bundle.createContext_eq_error_iff (b : Bundle) (e : AppError) :
    b.createContext fs = .error e ↔
      ∃ why, b.stores.FirstFault fs why ∧ e = .io (.cannotOpen why) := by
  have hopen : b.createContext fs = .error e ↔ openAll fs b.stores.paths = .error e := by
    unfold createContext
    cases openAll fs b.stores.paths <;> simp
  rw [hopen, Stores.paths, openAll_append, openAll_append, bind_eq_error_iff, bind_eq_error_iff]
  simp only [bind_eq_ok_iff, openAll_toList_eq_ok_iff, openAll_toList_eq_error_iff]
  constructor
  · rintro ((⟨why, hfault, rfl⟩ | ⟨-, hauthority, why, hfault, rfl⟩) |
      ⟨-, ⟨-, hauthority, hcertificate⟩, why, hfault, rfl⟩)
    · exact ⟨why, .authority hfault, rfl⟩
    · exact ⟨why, .certificate hauthority hfault, rfl⟩
    · exact ⟨why, .key hauthority hcertificate hfault, rfl⟩
  · rintro ⟨why, hfirst, rfl⟩
    cases hfirst with
    | authority hfault => exact .inl (.inl ⟨why, hfault, rfl⟩)
    | certificate hauthority hfault => exact .inl (.inr ⟨(), hauthority, why, hfault, rfl⟩)
    | key hauthority hcertificate hfault =>
      exact .inr ⟨(), ⟨(), hauthority, hcertificate⟩, why, hfault, rfl⟩

end

/-! ## Settings -/

/-- What a bundle can say, apart from its name. -/
inductive Setting where
  | authority
  | certificate
  | key
  | keyPassword
  | verifyHostname
  | ciphers
  | enabledProtocols
  | protocol
deriving DecidableEq, Repr

/-- A setting says something else than in a bundle without material.  Protocols are compared without
regard to case. -/
def Bundle.Departs (b : Bundle) : Setting → Prop
  | .authority => b.stores.authority ≠ systemDefault.stores.authority
  | .certificate => b.stores.certificate ≠ systemDefault.stores.certificate
  | .key => b.stores.key ≠ systemDefault.stores.key
  | .keyPassword => b.stores.keyPassword ≠ systemDefault.stores.keyPassword
  | .verifyHostname => b.stores.verifyHostname ≠ systemDefault.stores.verifyHostname
  | .ciphers => b.options.ciphers ≠ systemDefault.options.ciphers
  | .enabledProtocols => b.options.enabledProtocols ≠ systemDefault.options.enabledProtocols
  | .protocol => Text.lower b.protocol ≠ Text.lower systemDefault.protocol

theorem Options.isSpecified_eq_false_iff (o : Options) :
    o.isSpecified = false ↔ o.ciphers = .none ∧ o.enabledProtocols = .none := by
  simp [isSpecified]

end ClientWiring.Tls
