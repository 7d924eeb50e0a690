import ClientWiring.SortedMap
import ClientWiring.Tree.Basic

/-!
# Trees from plain values

The inverse direction of the strict readings: numbers, texts, lists and maps as trees, and null for
what is absent.
-/

namespace ClientWiring.Tree

/-- A natural number. -/
def ofNat (n : Nat) : Tree := .int n

/-- A value that may be absent. -/
def ofOption {α : Type} (f : α → Tree) : Option α → Tree
  | none => .null
  | some a => f a

/-- A text that may be absent. -/
def ofText? : Option String → Tree := ofOption .text

/-- A list of texts. -/
def ofTexts (items : List String) : Tree := .list (items.map .text)

/-- A map of texts. -/
def ofTextMap (entries : SortedMap String) : Tree :=
  .table (entries.pairs.map fun p => (p.1, .text p.2))

end ClientWiring.Tree
