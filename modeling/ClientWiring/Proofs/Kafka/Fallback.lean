import ClientWiring.Proofs.Kafka.Failure

/-!
# Own values and common values

Five parts of the settings may name a bundle: the common one and those of the roles.  All that are named
are looked up, used or not, in the order common, consumer, producer, admin, streams, and the first that
is not registered decides the error.  If all are, a role takes each field that it does not set from the
common endpoint, each on its own:

    (e.of role).servers  = (ownSection s role).bootstrapServers.getD e.common.servers
    (e.of role).protocol = (ownSection s role).securityProtocol.or e.common.protocol

A field that is set to nothing, no servers or an empty protocol, is set.  Roles that set nothing all
connect to the common endpoint                                             (ofSettings_answers).
-/

namespace ClientWiring

namespace Kafka

/-- The section of the settings that is about a role. -/
def ownSection (s : KafkaSettings) : Role → RoleSettings
  | .consumer => s.consumer.role
  | .producer => s.producer.role
  | .admin => s.admin.role
  | .streams => s.streams.role

/-- A part of the settings that may name a bundle. -/
inductive Part where
  | common
  | role (role : Role)
deriving DecidableEq, Repr

namespace Part

/-- The name of a bundle in a part of the settings. -/
def bundle? (s : KafkaSettings) : Part → Option String
  | .common => s.bundle
  | .role r => (ownSection s r).bundle

/-- All parts in the order in which their bundles are looked up. -/
def inOrder : List Part :=
  [.common, .role .consumer, .role .producer, .role .admin, .role .streams]

theorem mem_inOrder (part : Part) : part ∈ inOrder := by
  cases part with
  | common => decide
  | role r => cases r <;> decide

end Part

/-- The bundle that is looked up in vain first: a part names it, it is not registered, and all that
earlier parts name are. -/
structure FirstUnresolvable (registry : Option Tls.Registry) (s : KafkaSettings) (part : Part)
    (name : String) : Prop where
  named : part.bundle? s = some name
  missing : Tls.registered? registry name = none
  first : ∃ earlier later, Part.inOrder = earlier ++ part :: later ∧
    ∀ other ∈ earlier, ∀ n, other.bundle? s = some n → ∃ b, Tls.registered? registry n = some b

/-- An endpoint has the values of settings where they are set, and those of the common endpoint where
they are not. -/
structure TakesOver (registry : Option Tls.Registry) (s : RoleSettings) (common own : Endpoint) :
    Prop where
  servers : own.servers = s.bootstrapServers.getD common.servers
  protocol : own.protocol = s.securityProtocol.or common.protocol
  ownBundle : ∀ name, s.bundle = some name →
    ∃ b, Tls.registered? registry name = some b ∧ own.bundle = some b
  commonBundle : s.bundle = none → own.bundle = common.bundle

/-- Settings of a role that leave servers, protocol and bundle to the common ones. -/
structure KeepsCommon (s : RoleSettings) : Prop where
  servers : s.bootstrapServers = none
  protocol : s.securityProtocol = none
  bundle : s.bundle = none

/-- The common endpoint has the values of the settings and the bundle that they name. -/
structure IsCommon (registry : Option Tls.Registry) (s : KafkaSettings) (common : Endpoint) :
    Prop where
  servers : common.servers = s.bootstrapServers
  protocol : common.protocol = s.securityProtocol
  named : ∀ name, s.bundle = some name →
    ∃ b, Tls.registered? registry name = some b ∧ common.bundle = some b
  unnamed : s.bundle = none → common.bundle = none

/-- When settings have endpoints, and which. -/
structure Endpoints.Answers (registry : Option Tls.Registry) (s : KafkaSettings)
    (answer : Except AppError Endpoints) : Prop where
  succeeds : (∃ e, answer = .ok e) ↔
    ∀ (part : Part) name, part.bundle? s = some name →
      ∃ b, Tls.registered? registry name = some b
  /-- Without a registry nothing is registered. -/
  alone : registry = none → ((∃ e, answer = .ok e) ↔ ∀ part : Part, part.bundle? s = none)
  fails : ∀ err, answer = .error err ↔
    ∃ part name, FirstUnresolvable registry s part name ∧ err = Tls.unresolved registry name
  kind : ∀ err, answer = .error err →
    (registry = none → err.kind = .illegalState) ∧ (registry ≠ none → err.kind = .notFound)
  common : ∀ e, answer = .ok e → IsCommon registry s e.common
  roles : ∀ e, answer = .ok e →
    ∀ role : Role, TakesOver registry (ownSection s role) e.common (e.of role)
  uniform : ∀ e, answer = .ok e → (∀ role : Role, KeepsCommon (ownSection s role)) →
    e = .uniform e.common

/-! ## Failure -/

theorem bundleNames_eq (s : KafkaSettings) :
    bundleNames s = Part.inOrder.flatMap fun part => (part.bundle? s).toList := by
  simp only [bundleNames, Part.inOrder, List.flatMap_cons, List.flatMap_nil, List.append_nil]
  rfl

section

variable (registry : Option Tls.Registry) (s : KafkaSettings)

theorem firstUnresolved_eq_some_iff (name : String) :
    Tls.firstUnresolved? registry (bundleNames s) = some name ↔
      ∃ part, FirstUnresolvable registry s part name := by
  have hfound : ∀ part : Part,
      (part.bundle? s).toList.find? (fun n => (Tls.registered? registry n).isNone) = some name ↔
        part.bundle? s = some name ∧ Tls.registered? registry name = none := by
    intro part
    cases part.bundle? s with
    | none => simp
    | some n => simpa [and_comm] using fun h => by rw [h]
  have hpassed : ∀ part : Part,
      (part.bundle? s).toList.find? (fun n => (Tls.registered? registry n).isNone) = none ↔
        ∀ n, part.bundle? s = some n → ∃ b, Tls.registered? registry n = some b := by
    intro part
    simp [← Option.ne_none_iff_exists']
  rw [Tls.firstUnresolved?, bundleNames_eq, List.find?_flatMap, List.findSome?_eq_some_iff]
  simp only [hfound, hpassed]
  constructor
  · rintro ⟨earlier, part, later, horder, ⟨hnamed, hmissing⟩, hearlier⟩
    exact ⟨part, hnamed, hmissing, earlier, later, horder, hearlier⟩
  · rintro ⟨part, hnamed, hmissing, earlier, later, horder, hearlier⟩
    exact ⟨earlier, part, later, horder, ⟨hnamed, hmissing⟩, hearlier⟩

namespace Endpoints

theorem ofSettings_eq_error_iff (e : AppError) :
    ofSettings registry s = .error e ↔
      ∃ part name, FirstUnresolvable registry s part name ∧ e = Tls.unresolved registry name := by
  rw [looksUp_ofSettings registry s e]
  simp only [firstUnresolved_eq_some_iff]
  constructor
  · rintro ⟨name, ⟨part, hfirst⟩, rfl⟩
    exact ⟨part, name, hfirst, rfl⟩
  · rintro ⟨part, name, hfirst, rfl⟩
    exact ⟨name, ⟨part, hfirst⟩, rfl⟩

theorem exists_ofSettings_eq_ok_iff :
    (∃ e, ofSettings registry s = .ok e) ↔
      ∀ (part : Part) name, part.bundle? s = some name →
        ∃ b, Tls.registered? registry name = some b := by
  rw [(looksUp_ofSettings registry s).exists_ok_iff, bundleNames_eq]
  simp only [List.mem_flatMap, Option.mem_toList]
  constructor
  · intro hall part name hname
    exact hall name ⟨part, part.mem_inOrder, hname⟩
  · rintro hall name ⟨part, -, hname⟩
    exact hall part name hname

end Endpoints

end

theorem kind_unresolved (registry : Option Tls.Registry) (name : String) :
    (registry = none → (Tls.unresolved registry name).kind = .illegalState) ∧
      (registry ≠ none → (Tls.unresolved registry name).kind = .notFound) := by
  cases registry with
  | none => exact ⟨fun _ => rfl, fun h => absurd rfl h⟩
  | some r => exact ⟨fun h => (Option.some_ne_none r h).elim, fun _ => rfl⟩

/-! ## Success -/

theorem settings_eq_ownSection (s : KafkaSettings) (role : Role) :
    role.settings s = ownSection s role := by
  cases role <;> rfl

theorem TakesOver.eq_common {registry : Option Tls.Registry} {settings : RoleSettings}
    {common own : Endpoint} (h : TakesOver registry settings common own)
    (hkeeps : KeepsCommon settings) : own = common := by
  have hservers : own.servers = common.servers := by
    rw [h.servers, hkeeps.servers, Option.getD_none]
  have hprotocol : own.protocol = common.protocol := by
    rw [h.protocol, hkeeps.protocol, Option.none_or]
  calc
    own = ⟨own.servers, own.protocol, own.bundle⟩ := rfl
    _ = ⟨common.servers, common.protocol, common.bundle⟩ := by
      rw [hservers, hprotocol, h.commonBundle hkeeps.bundle]
    _ = common := rfl

namespace Endpoints

variable {registry : Option Tls.Registry} {s : KafkaSettings} {e : Endpoints}

theorem isCommon_of_ofSettings (h : ofSettings registry s = .ok e) :
    IsCommon registry s e.common := by
  obtain ⟨hcommon, -⟩ := (ofSettings_eq_ok_iff registry s e).mp h
  obtain ⟨bundle, hbundle, heq⟩ := (commonOfSettings_eq_ok_iff registry s e.common).mp hcommon
  obtain ⟨rfl, hfound⟩ := (Tls.resolveOptional_eq_ok_iff registry s.bundle bundle).mp hbundle
  rw [heq]
  refine ⟨rfl, rfl, fun name hname => ?_, fun hname => ?_⟩
  · obtain ⟨b, hb⟩ := Option.isSome_iff_exists.mp (hfound name hname)
    exact ⟨b, hb, by rw [hname, Option.bind_some, hb]⟩
  · rw [hname, Option.bind_none]

theorem takesOver_of_ofRole {common own : Endpoint} {settings : RoleSettings}
    (h : ofRole registry common settings = .ok own) : TakesOver registry settings common own := by
  obtain ⟨bundle, hbundle, rfl⟩ := (ofRole_eq_ok_iff registry common settings own).mp h
  obtain ⟨rfl, hfound⟩ := (Tls.resolveOptional_eq_ok_iff registry settings.bundle bundle).mp hbundle
  refine ⟨rfl, rfl, fun name hname => ?_, fun hname => ?_⟩
  · obtain ⟨b, hb⟩ := Option.isSome_iff_exists.mp (hfound name hname)
    exact ⟨b, hb, by rw [hname, Option.bind_some, hb, Option.some_or]⟩
  · rw [hname, Option.bind_none, Option.none_or]

theorem takesOver_of_ofSettings (h : ofSettings registry s = .ok e) (role : Role) :
    TakesOver registry (ownSection s role) e.common (e.of role) := by
  obtain ⟨-, hroles⟩ := (ofSettings_eq_ok_iff registry s e).mp h
  rw [← settings_eq_ownSection]
  exact takesOver_of_ofRole (hroles role)

theorem eq_uniform_of_keepsCommon (h : ofSettings registry s = .ok e)
    (hkeeps : ∀ role : Role, KeepsCommon (ownSection s role)) : e = .uniform e.common := by
  have hof : ∀ role : Role, e.of role = e.common :=
    fun role => (takesOver_of_ofSettings h role).eq_common (hkeeps role)
  calc
    e = ⟨e.common, e.of .consumer, e.of .producer, e.of .admin, e.of .streams⟩ := rfl
    _ = .uniform e.common := by simp only [hof, uniform]

/-- Settings have endpoints just when every bundle that they name is registered; otherwise the first
part with one that is not decides the error.  A role takes each field that it does not set from the
common endpoint, so roles that set none all have the common one. -/
theorem ofSettings_answers (registry : Option Tls.Registry) (s : KafkaSettings) :
    Answers registry s (ofSettings registry s) where
  succeeds := exists_ofSettings_eq_ok_iff registry s
  alone := by
    rintro rfl
    rw [exists_ofSettings_eq_ok_iff]
    constructor
    · intro hall part
      cases hname : part.bundle? s with
      | none => rfl
      | some name =>
        obtain ⟨b, hb⟩ := hall part name hname
        cases hb
    · intro hnone part name hname
      rw [hnone part] at hname
      cases hname
  fails := ofSettings_eq_error_iff registry s
  kind := by
    intro err herror
    obtain ⟨part, name, -, rfl⟩ := (ofSettings_eq_error_iff registry s err).mp herror
    exact kind_unresolved registry name
  common e h := isCommon_of_ofSettings h
  roles e h := takesOver_of_ofSettings h
  uniform e h := eq_uniform_of_keepsCommon h

/-- A role with servers and a protocol of its own, both of them empty, and a registered bundle. -/
def ownRole : RoleSettings :=
  { RoleSettings.default with
    bootstrapServers := some [], securityProtocol := some "", bundle := some "pem" }

/-- Every role sets every field, and the common bundle, which none of them uses, is not registered. -/
example :
    ofSettings (some ⟨.ofList [("pem", .systemDefault)]⟩)
        { KafkaSettings.default with
          bundle := some "missing"
          consumer := { ConsumerSettings.default with role := ownRole }
          producer := { ProducerSettings.default with role := ownRole }
          admin := { AdminSettings.default with role := ownRole }
          streams := { StreamsSettings.default with role := ownRole } } =
      .error (.unknownBundle "missing") := rfl

end Endpoints

end Kafka

end ClientWiring
