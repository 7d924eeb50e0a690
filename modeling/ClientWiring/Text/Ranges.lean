/-!
# Ranges of characters

Properties of characters are listed as ranges of code points in ascending order, ends included.
-/

namespace ClientWiring.Text

/-- Ranges of code points, ends included. -/
abbrev Ranges := List (Nat × Nat)

/-- Whether a character lies in one of the ranges. -/
def covers (ranges : Ranges) (c : Char) : Bool :=
  ranges.any fun range => range.1 ≤ c.toNat && c.toNat ≤ range.2

end ClientWiring.Text
