import ClientWiring.Mongo.Customizer

/-!
# The factory of MongoDB clients

The factory runs its customizers in ascending rank on empty settings, those of one rank in the order
in which they were registered, and stops at the first that fails.
-/

namespace ClientWiring.Mongo

/-- A factory with the customizers registered with it. -/
structure ClientFactory where
  customizers : List Customizer

/-- Runs customizers in the given order until one fails. -/
def Customizer.runInOrder (s : ClientSettings) : List Customizer → Except AppError ClientSettings
  | [] => .ok s
  | c :: rest =>
    match c.apply s with
    | (next, .ok ()) => runInOrder next rest
    | (_, .error e) => .error e

/-- The settings of the clients that the factory makes. -/
def ClientFactory.settings (f : ClientFactory) : Except AppError ClientSettings :=
  Customizer.runInOrder .empty (byRank Customizer.rank f.customizers)

/-! ## Texts for people -/

open Inspect

instance : Inspect ClientFactory := ⟨fun f =>
  record "MongoClientFactory" [field "customizers" (inspect f.customizers.length)]⟩

end ClientWiring.Mongo
