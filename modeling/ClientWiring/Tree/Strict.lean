import ClientWiring.Tree.Basic
import ClientWiring.SortedMap

/-!
# Strict readings of a tree

A reading takes a tree as a value of one type, and no value of another type is ever converted: a
number is no text, an integer is written without a fraction, and it has to fit its width.  The only
liberty is that an integer may stand where a floating-point number is wanted.

Fields come in three sorts: `required` ones, ones with a `default` that stands in when the field is
absent, and `optional` ones, for which absent and `null` are the same.
-/

namespace ClientWiring.Tree

/-! ## Readings of a value -/

/-- A text. -/
def text? : Tree → Option String
  | text s => some s
  | _ => none

/-- A truth value. -/
def bool? : Tree → Option Bool
  | bool b => some b
  | _ => none

/-- A natural number below a limit. -/
def natBelow? (limit : Nat) : Tree → Option Nat
  | int n => if 0 ≤ n ∧ n < limit then some n.toNat else none
  | _ => none

/-- A number of 16 bits. -/
def uint16? (t : Tree) : Option UInt16 := (natBelow? UInt16.size t).map UInt16.ofNat

/-- A number of 32 bits. -/
def uint32? (t : Tree) : Option UInt32 := (natBelow? UInt32.size t).map UInt32.ofNat

/-- A number of 64 bits. -/
def uint64? (t : Tree) : Option UInt64 := (natBelow? UInt64.size t).map UInt64.ofNat

/-- A floating-point number, which may be written as an integer. -/
def double? : Tree → Option Double
  | float x => some x
  | int n => some (.ofFloat (Float.ofInt n))
  | _ => none

/-- A list, all of whose items have the same reading. -/
def listOf? {α : Type} (item : Tree → Option α) : Tree → Option (List α)
  | list items => items.mapM item
  | _ => none

/-- A list of texts. -/
def texts? : Tree → Option (List String) := listOf? text?

/-- A table, all of whose values have the same reading. -/
def mapOf? {α : Type} (value : Tree → Option α) : Tree → Option (SortedMap α)
  | table fields =>
    (fields.mapM fun p => (value p.2).map fun v => (p.1, v)).map SortedMap.ofList
  | _ => none

/-- A table of texts. -/
def textMap? : Tree → Option (SortedMap String) := mapOf? text?

/-- A value or nothing, where `null` is nothing. -/
def nullable? {α : Type} (value : Tree → Option α) : Tree → Option (Option α)
  | null => some none
  | t => (value t).map some

/-! ## Readings of fields -/

/-- A field that must be there. -/
def required {α : Type} (fields : Fields) (name : String) (value : Tree → Option α) : Option α :=
  match getField? fields name with
  | some t => value t
  | none => none

/-- A field that has a default when it is absent. -/
def withDefault {α : Type} (fields : Fields) (name : String) (value : Tree → Option α)
    (default : α) : Option α :=
  match getField? fields name with
  | some t => value t
  | none => some default

/-- A field that may be absent or `null`. -/
def optional {α : Type} (fields : Fields) (name : String) (value : Tree → Option α) :
    Option (Option α) :=
  withDefault fields name (nullable? value) none

end ClientWiring.Tree
