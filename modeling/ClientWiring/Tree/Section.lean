import ClientWiring.Tree.Strict

/-!
# Sections

A section is a table of named fields, or a row: the list of the values of its fields, in the order
in which the section names them.  A row may stop early; the fields that it does not reach are
absent.  What becomes of a row that goes on after the last field is up to the one who reads it.

    sectionOf? surplus names (list []) = some []      (sectionOf?_nil)
-/

namespace ClientWiring.Tree

/-- What becomes of the values after the last field of a row. -/
inductive Surplus where
  | refused
  | ignored
deriving DecidableEq, Repr

/-- The fields that a row gives. -/
def rowFields? (surplus : Surplus) (names : List String) (items : List Tree) : Option Fields :=
  if surplus = .refused ∧ names.length < items.length then none else some (names.zip items)

/-- The fields of a section. -/
def sectionOf? (surplus : Surplus) (names : List String) : Tree → Option Fields
  | table fields => some fields
  | list items => rowFields? surplus names items
  | _ => none

/-- The fields of a section that can be a row only if the row reaches its last field. -/
def wholeSection? (surplus : Surplus) (names : List String) : Tree → Option Fields
  | list items => if items.length < names.length then none else rowFields? surplus names items
  | t => sectionOf? surplus names t

/-! ## Lemmas -/

theorem sectionOf?_nil (surplus : Surplus) (names : List String) :
    sectionOf? surplus names (list []) = some [] := by
  simp [sectionOf?, rowFields?]

end ClientWiring.Tree
