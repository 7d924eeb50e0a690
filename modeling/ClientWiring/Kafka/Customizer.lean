import ClientWiring.Ranked

/-!
# Customizers of the caller

A customizer changes a factory after it was made.  Customizers run in ascending rank, those of one
rank in the order in which they were registered, and each may note what it did.
-/

namespace ClientWiring.Kafka

/-- A change of a factory by the caller, with notes. -/
structure Customizer (σ ε : Type) where
  rank : Int
  apply : σ → σ × List ε

variable {σ ε : Type}

/-- Runs customizers in the given order. -/
def Customizer.runInOrder (factory : σ) : List (Customizer σ ε) → σ × List ε
  | [] => (factory, [])
  | c :: rest =>
    let (next, notes) := c.apply factory
    let (final, more) := runInOrder next rest
    (final, notes ++ more)

/-- Runs customizers in ascending rank. -/
def Customizer.run (customizers : List (Customizer σ ε)) (factory : σ) : σ × List ε :=
  runInOrder factory (byRank Customizer.rank customizers)

end ClientWiring.Kafka
