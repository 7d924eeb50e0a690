import ClientWiring.Kafka.Endpoint
import ClientWiring.Proofs.Tls.Lookup

/-!
# The endpoints that settings describe

Every bundle that is named has to be registered.  Then the endpoint of a role is the common one with
each field of its own in place of the common field, and the bundle is the registered one of the name
that remains:

    ofSettings registry s = .ok e →
      e.of role = role.endpoint registry s                                  (of_of_ofSettings)
-/

namespace ClientWiring

namespace Kafka

/-- The name of the bundle that a role uses: its own, or else the common one. -/
def Role.bundleName (s : KafkaSettings) : Role → Option String
  | .consumer => s.consumer.role.bundle.or s.bundle
  | .producer => s.producer.role.bundle.or s.bundle
  | .admin => s.admin.role.bundle.or s.bundle
  | .streams => s.streams.role.bundle.or s.bundle

theorem Role.bundleName_eq (s : KafkaSettings) (role : Role) :
    role.bundleName s = (role.settings s).bundle.or s.bundle := by
  cases role <;> rfl

/-- The endpoint of a role, each field its own or else the common one. -/
def Role.endpoint (registry : Option Tls.Registry) (s : KafkaSettings) (role : Role) : Endpoint :=
  { servers := (role.settings s).bootstrapServers.getD s.bootstrapServers
    protocol := (role.settings s).securityProtocol.or s.securityProtocol
    bundle := (role.bundleName s).bind (Tls.registered? registry) }

namespace Endpoints

theorem commonOfSettings_eq_ok_iff (registry : Option Tls.Registry) (s : KafkaSettings)
    (e : Endpoint) :
    commonOfSettings registry s = .ok e ↔
      ∃ bundle, Tls.resolveOptional registry s.bundle = .ok bundle ∧
        e = ⟨s.bootstrapServers, s.securityProtocol, bundle⟩ := by
  unfold commonOfSettings
  cases Tls.resolveOptional registry s.bundle <;> simp [eq_comm]

theorem ofRole_eq_ok_iff (registry : Option Tls.Registry) (common : Endpoint) (s : RoleSettings)
    (e : Endpoint) :
    ofRole registry common s = .ok e ↔
      ∃ bundle, Tls.resolveOptional registry s.bundle = .ok bundle ∧
        e = ⟨s.bootstrapServers.getD common.servers, s.securityProtocol.or common.protocol,
          bundle.or common.bundle⟩ := by
  unfold ofRole
  cases Tls.resolveOptional registry s.bundle <;> simp [eq_comm]

/-- All look-ups succeed exactly if each of them does. -/
theorem ofSettings_eq_ok_iff (registry : Option Tls.Registry) (s : KafkaSettings) (e : Endpoints) :
    ofSettings registry s = .ok e ↔
      commonOfSettings registry s = .ok e.common ∧
        ∀ role : Role, ofRole registry e.common (role.settings s) = .ok (e.of role) := by
  unfold ofSettings
  simp only [bind_eq_ok_iff, Except.ok.injEq]
  constructor
  · rintro ⟨common, h0, consumer, h1, producer, h2, admin, h3, streams, h4, rfl⟩
    refine ⟨h0, fun role => ?_⟩
    cases role with
    | consumer => exact h1
    | producer => exact h2
    | admin => exact h3
    | streams => exact h4
  · rintro ⟨h0, hroles⟩
    exact ⟨e.common, h0, e.consumer, hroles .consumer, e.producer, hroles .producer,
      e.admin, hroles .admin, e.streams, hroles .streams, rfl⟩

/-- What was looked up is what the settings of the role say. -/
theorem of_of_ofSettings {registry : Option Tls.Registry} {s : KafkaSettings} {e : Endpoints}
    (h : ofSettings registry s = .ok e) (role : Role) : e.of role = role.endpoint registry s := by
  obtain ⟨hc, hroles⟩ := (ofSettings_eq_ok_iff registry s e).mp h
  obtain ⟨common, hcommon, hce⟩ := (commonOfSettings_eq_ok_iff registry s e.common).mp hc
  obtain ⟨own, hown, hre⟩ := (ofRole_eq_ok_iff registry e.common _ (e.of role)).mp (hroles role)
  obtain ⟨rfl, -⟩ := (Tls.resolveOptional_eq_ok_iff registry s.bundle common).mp hcommon
  obtain ⟨rfl, hfound⟩ := (Tls.resolveOptional_eq_ok_iff registry _ own).mp hown
  rw [hre, hce]
  unfold Role.endpoint
  rw [Role.bundleName_eq]
  congr 1
  cases hb : (role.settings s).bundle with
  | none => simp
  | some n =>
    obtain ⟨b, hn⟩ := Option.isSome_iff_exists.mp (hfound n hb)
    simp [hn]

/-- Whatever bundle a role uses was found. -/
theorem isSome_registered?_of_ofSettings {registry : Option Tls.Registry} {s : KafkaSettings}
    {e : Endpoints} (h : ofSettings registry s = .ok e) (role : Role) (name : String)
    (hname : role.bundleName s = some name) : (Tls.registered? registry name).isSome := by
  obtain ⟨hc, hroles⟩ := (ofSettings_eq_ok_iff registry s e).mp h
  obtain ⟨common, hcommon, -⟩ := (commonOfSettings_eq_ok_iff registry s e.common).mp hc
  obtain ⟨own, hown, -⟩ := (ofRole_eq_ok_iff registry e.common _ (e.of role)).mp (hroles role)
  have hcommonFound := ((Tls.resolveOptional_eq_ok_iff registry s.bundle common).mp hcommon).2
  have hownFound := ((Tls.resolveOptional_eq_ok_iff registry _ own).mp hown).2
  rw [Role.bundleName_eq] at hname
  cases hb : (role.settings s).bundle with
  | none => exact hcommonFound name (by simpa [hb] using hname)
  | some n => exact hownFound name (by simpa [hb] using hname)

end Endpoints

end Kafka

end ClientWiring
