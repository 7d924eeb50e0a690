import ClientWiring.Proofs.Fallible
import ClientWiring.Tls.Registry

/-!
# Bundles by name

A name is resolved just when a bundle is registered under it; if not, the error tells whether there is
a registry at all (resolve_eq_ok_iff, resolve_eq_error_iff).  A row of look-ups fails at the first name
that cannot be resolved (`LooksUp`).
-/

namespace ClientWiring.Tls

/-- The bundle that is registered under a name; none without a registry. -/
def registered? (registry : Option Registry) (name : String) : Option Bundle :=
  registry.bind fun r => r.bundles.get? name

theorem resolve_eq_ok_iff (registry : Option Registry) (name : String) (bundle : Bundle) :
    resolve registry name = .ok bundle ↔ registered? registry name = some bundle := by
  cases registry with
  | none => simp [resolve, registered?]
  | some r =>
    simp only [resolve, registered?, Registry.get, Option.bind_some]
    cases r.bundles.get? name <;> simp

theorem resolveOptional_eq_ok_iff (registry : Option Registry) (name : Option String)
    (bundle : Option Bundle) :
    resolveOptional registry name = .ok bundle ↔
      bundle = name.bind (registered? registry) ∧
        ∀ n, name = some n → (registered? registry n).isSome := by
  cases name with
  | none =>
    simp only [resolveOptional, Option.bind_none, Except.ok.injEq, reduceCtorEq, false_implies,
      implies_true, and_true]
    exact eq_comm
  | some n =>
    simp only [resolveOptional, Option.bind_some, Option.some.injEq, forall_eq']
    cases hr : resolve registry n with
    | ok b =>
      have hb : registered? registry n = some b := (resolve_eq_ok_iff registry n b).mp hr
      simp [hb, eq_comm]
    | error e =>
      have hb : registered? registry n = none := by
        cases hf : registered? registry n with
        | none => rfl
        | some b =>
          have hok := (resolve_eq_ok_iff registry n b).mpr hf
          rw [hr] at hok
          cases hok
      simp [hb]

/-- The error for a bundle that cannot be resolved. -/
def unresolved (registry : Option Registry) (name : String) : AppError :=
  match registry with
  | none => .noRegistry name
  | some _ => .unknownBundle name

theorem resolve_eq_error_iff (registry : Option Registry) (name : String) (e : AppError) :
    resolve registry name = .error e ↔
      registered? registry name = none ∧ e = unresolved registry name := by
  cases registry with
  | none => simp [resolve, registered?, unresolved, eq_comm]
  | some r =>
    simp only [resolve, registered?, Registry.get, Option.bind_some, unresolved]
    cases r.bundles.get? name <;> simp [eq_comm]

theorem resolveOptional_eq_error_iff (registry : Option Registry) (name : Option String)
    (e : AppError) :
    resolveOptional registry name = .error e ↔
      ∃ n, name = some n ∧ registered? registry n = none ∧ e = unresolved registry n := by
  cases name with
  | none => simp [resolveOptional]
  | some n =>
    simp only [resolveOptional, Option.some.injEq, exists_eq_left']
    rw [← resolve_eq_error_iff]
    cases resolve registry n <;> simp

/-- The first of some names that cannot be resolved. -/
def firstUnresolved? (registry : Option Registry) (names : List String) : Option String :=
  names.find? fun name => (registered? registry name).isNone

/-- What looks up names one after the other fails at the first that cannot be resolved, and at
nothing else. -/
def LooksUp {α : Type} (registry : Option Registry) (names : List String)
    (x : Except AppError α) : Prop :=
  ∀ e, x = .error e ↔ ∃ name, firstUnresolved? registry names = some name ∧
    e = unresolved registry name

namespace LooksUp

variable {α β : Type} {registry : Option Registry}

theorem ok (a : α) : LooksUp registry [] (.ok a : Except AppError α) := by
  intro e
  simp [firstUnresolved?]

/-- What resolves one name, if one is given, looks up just that name. -/
theorem of_resolveOptional (name : Option String) (f : Option Bundle → α) :
    LooksUp registry name.toList ((resolveOptional registry name).map f) := by
  intro e
  have hmap : (resolveOptional registry name).map f = .error e ↔
      resolveOptional registry name = .error e := by
    cases resolveOptional registry name <;> simp [Except.map]
  rw [hmap, resolveOptional_eq_error_iff]
  cases name with
  | none => simp [firstUnresolved?]
  | some n => simp [firstUnresolved?, and_assoc]

/-- Names are looked up in the order of the steps. -/
theorem bind {names more : List String} {x : Except AppError α} {next : α → Except AppError β}
    (hx : LooksUp registry names x) (hnext : ∀ a, LooksUp registry more (next a)) :
    LooksUp registry (names ++ more) (x >>= next) := by
  intro e
  have happend : firstUnresolved? registry (names ++ more) =
      (firstUnresolved? registry names).or (firstUnresolved? registry more) := List.find?_append
  rw [bind_eq_error_iff, happend]
  cases x with
  | error e' =>
    obtain ⟨name, hname, rfl⟩ := (hx e').mp rfl
    simp [hname, eq_comm]
  | ok a =>
    have hnone : firstUnresolved? registry names = none := by
      cases hfirst : firstUnresolved? registry names with
      | none => rfl
      | some name => cases (hx _).mpr ⟨name, hfirst, rfl⟩
    simp [hnone, hnext a e]

/-- A row of look-ups succeeds just when every name is registered. -/
theorem exists_ok_iff {names : List String} {x : Except AppError α} (h : LooksUp registry names x) :
    (∃ a, x = .ok a) ↔ ∀ name ∈ names, ∃ b, registered? registry name = some b := by
  have hfound : (∀ name ∈ names, ∃ b, registered? registry name = some b) ↔
      firstUnresolved? registry names = none := by
    simp [firstUnresolved?, ← Option.ne_none_iff_exists']
  rw [hfound]
  cases x with
  | ok a =>
    refine ⟨fun _ => ?_, fun _ => ⟨a, rfl⟩⟩
    cases hfirst : firstUnresolved? registry names with
    | none => rfl
    | some name => cases (h _).mpr ⟨name, hfirst, rfl⟩
  | error e =>
    obtain ⟨name, hname, -⟩ := (h e).mp rfl
    simp [hname]

end LooksUp

end ClientWiring.Tls
