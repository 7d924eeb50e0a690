import ClientWiring.Double

/-!
# Property trees

A tree is what configuration layers, environment values and messages are read into: scalars, lists,
and tables of named fields.  A field counts by its first occurrence, and `set` keeps names apart, so
a table built by `set` has each name once.

`merge` lays one tree over another.  Two tables are merged name by name; in every other case the
upper tree is taken whole.

    getField? (setField fs k v) j = if j = k then some v else getField? fs j    (getField?_setField)
-/

namespace ClientWiring

/-- A tree of properties. -/
inductive Tree where
  | null
  | bool (value : Bool)
  | int (value : Int)
  | float (value : Double)
  | text (value : String)
  | list (items : List Tree)
  | table (fields : List (String × Tree))
deriving Inhabited

namespace Tree

/-- Named fields of a table. -/
abbrev Fields := List (String × Tree)

/-- The value of a field. -/
def getField? (fields : Fields) (name : String) : Option Tree :=
  match fields with
  | [] => none
  | (k, v) :: rest => if name = k then some v else getField? rest name

/-- Sets a field, in its place if the name is there and at the end if not. -/
def setField (fields : Fields) (name : String) (value : Tree) : Fields :=
  match fields with
  | [] => [(name, value)]
  | (k, v) :: rest =>
    if name = k then (k, value) :: rest else (k, v) :: setField rest name value

/-- The fields of a table. -/
def fields? : Tree → Option Fields
  | table fields => some fields
  | _ => none

/-- The value of a field, if this is a table that has it. -/
def get? (t : Tree) (name : String) : Option Tree :=
  match t with
  | table fields => getField? fields name
  | _ => none

mutual

/-- Lays the second tree over the first. -/
def merge : Tree → Tree → Tree
  | table lower, table upper => table (mergeFields lower upper)
  | _, upper => upper

/-- Lays fields over a table, one after the other. -/
def mergeFields (lower : Fields) : Fields → Fields
  | [] => lower
  | (name, upper) :: rest =>
    let merged := match getField? lower name with
      | some old => merge old upper
      | none => upper
    mergeFields (setField lower name merged) rest

end

/-- The tree that has a value at the end of a path of names and nothing else. -/
def nest : List String → Tree → Tree
  | [], value => value
  | name :: path, value => table [(name, nest path value)]

/-! ## Lemmas -/

theorem getField?_setField (fields : Fields) (name other : String) (value : Tree) :
    getField? (setField fields name value) other =
      if other = name then some value else getField? fields other := by
  induction fields with
  | nil => by_cases h : other = name <;> simp [setField, getField?, h]
  | cons p rest ih =>
    obtain ⟨k, v⟩ := p
    by_cases hk : name = k
    · subst hk
      by_cases h : other = name <;> simp [setField, getField?, h]
    · by_cases h : other = name
      · subst h; simp [setField, getField?, hk, ih]
      · by_cases ho : other = k <;> simp [setField, getField?, hk, ih, ho, h]
        intro e; exact absurd e.symm hk

end Tree

end ClientWiring
