import ClientWiring.Inspect

/-!
# Values that must not be shown

A secret holds a text that is used but never shown: its text for people is the same for every
secret (`inspect_secret`).
-/

namespace ClientWiring

/-- A text that is used but never shown. -/
structure Secret where
  exposed : String
deriving DecidableEq

instance : Inspect Secret := ⟨fun _ => "Secret([REDACTED alloc::string::String])"⟩

/-- Two secrets look the same. -/
theorem inspect_secret (a b : Secret) : inspect a = inspect b := rfl

end ClientWiring
