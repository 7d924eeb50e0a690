import ClientWiring.Toml.Value

/-!
# Documents in TOML

A document is a row of lines: pairs of key and value, headers of tables, headers of tables in lists,
and lines with at most a comment.  A pair belongs to the table of the last header.
-/

namespace ClientWiring.Toml

/-- The tables read so far, and the path of the last header. -/
structure Document where
  entries : Entries
  current : List String

namespace Document

/-- A document without lines. -/
def empty : Document := ⟨[], []⟩

/-- Adds a pair to the table of the last header. -/
def addPair (d : Document) (path : List String) (key : String) (value : Tree) :
    Option Document := do
  let entries ← Entries.alter false (Entries.addAt path key value) d.current .header d.entries
  some { d with entries }

/-- Opens the table of a header. -/
def openTable (d : Document) (path : List String) (key : String) : Option Document := do
  let entries ← Entries.alter false (Entries.openTable key) path .header d.entries
  some ⟨entries, path ++ [key]⟩

/-- Opens a further table of a list. -/
def openListed (d : Document) (path : List String) (key : String) : Option Document := do
  let entries ← Entries.alter false (Entries.openListed key) path .header d.entries
  some ⟨entries, path ++ [key]⟩

end Document

/-- The rest after the end of a line, with blanks and a comment before it. -/
def endLine (cs : List Char) : Option (List Char) := do
  match ← skipComment (skipBlanks cs) with
  | [] => some []
  | cs => afterNewline? cs

/-- Reads what a line says, up to its end. -/
def takeLine (d : Document) (cs : List Char) : Option (Document × List Char) := do
  match cs with
  | '[' :: '[' :: rest =>
    let (path, key, rest) ← takeKey rest
    match rest with
    | ']' :: ']' :: rest => some (← d.openListed path key, rest)
    | _ => none
  | '[' :: rest =>
    let (path, key, rest) ← takeKey rest
    match rest with
    | ']' :: rest => some (← d.openTable path key, rest)
    | _ => none
  | _ =>
    let (path, key, rest) ← takeKey cs
    match rest with
    | '=' :: rest =>
      let (value, rest) ← takeValue (skipBlanks rest)
      some (← d.addPair path key value, rest)
    | _ => none

/-- Reads line after line. -/
def readLines : Nat → Document → List Char → Option Document
  | 0, _, _ => none
  | fuel + 1, d, cs => do
    match ← skipFiller cs.length cs with
    | [] => some d
    | cs =>
      let (d, rest) ← takeLine d cs
      let rest ← endLine rest
      readLines fuel d rest

/-- The tree of a document; a byte-order mark at its start is skipped. -/
def parse (text : String) : Option Tree := do
  let cs := match text.toList with
    | '\uFEFF' :: rest => rest
    | cs => cs
  let d ← readLines (cs.length + 1) .empty cs
  some (.table (Entries.toFields d.entries))

end ClientWiring.Toml
