import ClientWiring.Tree.Basic

/-!
# Tables under construction

While a document is read, a table remembers how it came to be: by a header of its own, as a part of
the path in another header, or by a key with dots.  This decides how it may be extended later.  A
list of tables grows at its end; a path through it leads into its last table.
-/

namespace ClientWiring.Toml

/-- How a table came to be. -/
inductive Form where
  | header
  | implied
  | dotted
deriving DecidableEq, Repr

/-- What stands under a key. -/
inductive Node where
  | leaf (value : Tree)
  | table (form : Form) (entries : List (String × Node))
  /-- A list of tables, the last first. -/
  | tables (items : List (List (String × Node)))

/-- The entries of a table. -/
abbrev Entries := List (String × Node)

namespace Entries

/-- What stands under a key. -/
def get? (entries : Entries) (key : String) : Option Node :=
  match entries with
  | [] => none
  | (k, node) :: rest => if key = k then some node else get? rest key

/-- Puts a node under a key. -/
def set (entries : Entries) (key : String) (node : Node) : Entries :=
  match entries with
  | [] => [(key, node)]
  | (k, old) :: rest => if key = k then (k, node) :: rest else (k, old) :: set rest key node

/-- Changes the table at the end of a path.  A table that is missing on the way is made, as one of
dotted keys or as an implied one.  A dotted key does not lead into a table that has a header. -/
def alter (dotted : Bool) (change : Form → Entries → Option Entries) :
    List String → Form → Entries → Option Entries
  | [], form, entries => change form entries
  | key :: path, _, entries => do
    let next ← match get? entries key with
      | none =>
        let form := if dotted then Form.dotted else Form.implied
        (alter dotted change path form []).map (Node.table form)
      | some (.table form inner) =>
        if dotted && form == .header then none
        else (alter dotted change path form inner).map (Node.table form)
      | some (.tables (last :: older)) =>
        (alter dotted change path .header last).map fun last => Node.tables (last :: older)
      | some (.tables []) | some (.leaf _) => none
    some (entries.set key next)

/-- Puts a value under a new key of a table, which is one of dotted keys exactly if the path to it
is not empty. -/
def add (path : List String) (key : String) (value : Tree) (form : Form) (entries : Entries) :
    Option Entries :=
  if (form == .dotted) == path.isEmpty then none
  else
    match get? entries key with
    | some _ => none
    | none => some (entries ++ [(key, .leaf value)])

/-- Puts a value at the end of a path from a table. -/
def addAt (path : List String) (key : String) (value : Tree) (form : Form) (entries : Entries) :
    Option Entries :=
  alter true (add path key value) path form entries

/-- Gives a table a header; it must not have had one. -/
def openTable (key : String) (_form : Form) (entries : Entries) : Option Entries :=
  match get? entries key with
  | none => some (entries ++ [(key, .table .header [])])
  | some (.table .implied inner) => some (entries.set key (.table .header inner))
  | some _ => none

/-- Appends a table to a list of tables, which may be a new one. -/
def openListed (key : String) (_form : Form) (entries : Entries) : Option Entries :=
  match get? entries key with
  | none => some (entries ++ [(key, .tables [[]])])
  | some (.tables items) => some (entries.set key (.tables ([] :: items)))
  | some _ => none

end Entries

mutual

/-- The finished tree of a node. -/
def Node.toTree : Node → Tree
  | .leaf value => value
  | .table _ entries => .table (Entries.toFields entries)
  | .tables items => .list (Entries.toTables items).reverse

/-- The finished fields of a table. -/
def Entries.toFields : List (String × Node) → Tree.Fields
  | [] => []
  | (key, node) :: rest => (key, node.toTree) :: Entries.toFields rest

/-- The finished tables of a list. -/
def Entries.toTables : List (List (String × Node)) → List Tree
  | [] => []
  | entries :: rest => .table (Entries.toFields entries) :: Entries.toTables rest

end

end ClientWiring.Toml
