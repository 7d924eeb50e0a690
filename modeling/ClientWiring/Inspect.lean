import ClientWiring.SortedMap
import ClientWiring.Text.Quoted
import ClientWiring.Decimal.Layout

/-!
# Texts of values for people

`Inspect` gives a value the text in which start-up diagnostics show it: a record as its name and its
fields in braces, a list in brackets, a map as its pairs in braces, an absent value as `None` and a
present one as `Some(…)`.  A record that keeps some of its fields to itself ends in `..`.
-/

namespace ClientWiring

/-- A text that shows a value to people. -/
class Inspect (α : Type) where
  inspect : α → String

export Inspect (inspect)

namespace Inspect

/-- Texts behind one another, with a separator between two. -/
def joined (separator : String) (texts : List String) : String := separator.intercalate texts

/-- A field of a record. -/
def field (name : String) (value : String) : String := name ++ ": " ++ value

/-- A record that shows all its fields. -/
def record (name : String) (fields : List String) : String :=
  name ++ " \x7b " ++ joined ", " fields ++ " \x7d"

/-- A record that keeps some of its fields to itself. -/
def openRecord (name : String) (fields : List String) : String :=
  name ++ " \x7b " ++ joined ", " fields ++ ", .. \x7d"

/-- A name with one value in parentheses. -/
def wrapped (name : String) (value : String) : String := name ++ "(" ++ value ++ ")"

/-- A list of texts in brackets. -/
def bracketed (items : List String) : String := "[" ++ joined ", " items ++ "]"

/-- Pairs of texts in braces. -/
def braced (pairs : List (String × String)) : String :=
  "\x7b" ++ joined ", " (pairs.map fun p => p.1 ++ ": " ++ p.2) ++ "\x7d"

instance : Inspect Bool := ⟨fun b => if b then "true" else "false"⟩
instance : Inspect Nat := ⟨fun n => n.repr⟩
instance : Inspect UInt16 := ⟨fun n => n.toNat.repr⟩
instance : Inspect UInt32 := ⟨fun n => n.toNat.repr⟩
instance : Inspect UInt64 := ⟨fun n => n.toNat.repr⟩
instance : Inspect String := ⟨Text.Quoted.quote⟩
instance : Inspect Double := ⟨Decimal.text .inspected⟩

instance {α : Type} [Inspect α] : Inspect (Option α) :=
  ⟨fun | none => "None" | some x => wrapped "Some" (inspect x)⟩

instance {α : Type} [Inspect α] : Inspect (List α) := ⟨fun xs => bracketed (xs.map inspect)⟩

instance {α : Type} [Inspect α] : Inspect (SortedMap α) :=
  ⟨fun m => braced (m.pairs.map fun p => (inspect p.1, inspect p.2))⟩

end Inspect

end ClientWiring
