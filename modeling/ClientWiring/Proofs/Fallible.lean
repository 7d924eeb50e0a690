import ClientWiring.Error

/-!
# Steps that may fail

A row of steps succeeds exactly if all of them do, and fails with the error of the first that does
not.  Two rows whose answers are the same after a change end alike.
-/

namespace ClientWiring

/-- Peels one step off a row of steps that all have to succeed. -/
theorem bind_eq_ok_iff {α β : Type} (x : Except AppError α) (f : α → Except AppError β) (b : β) :
    x >>= f = .ok b ↔ ∃ a, x = .ok a ∧ f a = .ok b := by
  cases x with
  | error e => simp [bind, Except.bind]
  | ok a => simp [bind, Except.bind]

/-- A row of steps fails with the error of the first one that does. -/
theorem bind_eq_error_iff {α β : Type} (x : Except AppError α) (f : α → Except AppError β)
    (e : AppError) : x >>= f = .error e ↔ x = .error e ∨ ∃ a, x = .ok a ∧ f a = .error e := by
  cases x with
  | error e' => simp [bind, Except.bind]
  | ok a => simp [bind, Except.bind]

/-- A step whose answer was changed leads to a changed answer when what follows allows for it. -/
theorem map_bind_eq_map {α β α' β' : Type} {f : α → α'} {g : β → β'} (x : Except AppError α)
    {next : α → Except AppError β} {next' : α' → Except AppError β'}
    (h : ∀ a, next' (f a) = (next a).map g) : x.map f >>= next' = (x >>= next).map g := by
  cases x with
  | error e => rfl
  | ok a => exact h a

/-- Steps whose answers are the same after a change fail alike, or succeed with answers that the
change makes the same. -/
theorem eq_error_or_eq_ok_of_map_eq {α β : Type} {f : α → β} {x y : Except AppError α}
    (h : x.map f = y.map f) :
    (∃ e, x = .error e ∧ y = .error e) ∨ ∃ a b, x = .ok a ∧ y = .ok b ∧ f a = f b := by
  cases x with
  | error e =>
    cases y with
    | error e' => exact .inl ⟨e, rfl, by cases h; rfl⟩
    | ok b => cases h
  | ok a =>
    cases y with
    | error e => cases h
    | ok b => exact .inr ⟨a, b, rfl, rfl, Except.ok.inj h⟩

end ClientWiring
