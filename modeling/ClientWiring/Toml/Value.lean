import ClientWiring.Toml.Node
import ClientWiring.Toml.Number
import ClientWiring.Toml.Text

/-!
# Keys and values in TOML

A key is a row of names with points between them.  A value is a text, a word, a list, or a table on
one line.  Lists may go over several lines and end in a comma; tables on one line may do neither.
Neither keys nor values go deeper than `depthLimit`.
-/

namespace ClientWiring.Toml

/-- How many names a key can have, and how many lists and tables on one line can be nested. -/
def depthLimit : Nat := 79

/-- Whether a character may stand in a name without quotes. -/
def isNameChar (c : Char) : Bool := c.isAlphanum || c == '_' || c == '-'

/-- One name of a key. -/
def takeName (cs : List Char) : Option (String × List Char) :=
  match cs with
  | '"' :: rest => (takeBasic (rest.length + 1) rest).map fun r => (String.ofList r.1, r.2)
  | '\'' :: rest => (takeLiteral rest).map fun r => (String.ofList r.1, r.2)
  | _ =>
    let name := cs.takeWhile isNameChar
    if name.isEmpty then none else some (String.ofList name, cs.dropWhile isNameChar)

/-- A key of at most so many names: its names but the last, the last, and the rest after blanks. -/
def takeNames : Nat → List Char → Option (List String × String × List Char)
  | 0, _ => none
  | more + 1, cs => do
    let (name, rest) ← takeName (skipBlanks cs)
    match skipBlanks rest with
    | '.' :: rest => do
      let (path, last, after) ← takeNames more rest
      some (name :: path, last, after)
    | after => some ([], name, after)

/-- A key: its names but the last, the last, and the rest after blanks. -/
def takeKey (cs : List Char) : Option (List String × String × List Char) := takeNames depthLimit cs

/-- The rest after a comment, if one starts here. -/
def skipComment (cs : List Char) : Option (List Char) :=
  match cs with
  | '#' :: rest =>
    let after := rest.dropWhile isTextChar
    match after with
    | [] => some []
    | _ => if (afterNewline? after).isSome then some after else none
  | _ => some cs

/-- The rest without blanks, comments and line ends. -/
def skipFiller : Nat → List Char → Option (List Char)
  | 0, cs => some cs
  | fuel + 1, cs => do
    let cs ← skipComment (skipBlanks cs)
    match afterNewline? cs with
    | some rest => skipFiller fuel rest
    | none => some cs

mutual

/-- A value with at most so many lists and tables in one another. -/
def takeNested : Nat → Nat → List Char → Option (Tree × List Char)
  | 0, _, _ => none
  | fuel + 1, depth, cs =>
    match cs with
    | '"' :: _ | '\'' :: _ => (takeText? cs).map fun r => (.text (String.ofList r.1), r.2)
    | '[' :: rest =>
      if depth = 0 then none
      else do
        let (items, after) ← takeItems fuel (depth - 1) rest
        some (.list items, after)
    | '\x7b' :: rest =>
      if depth = 0 then none
      else
        match skipBlanks rest with
        | '\x7d' :: after => some (.table [], after)
        | rest => do
          let (entries, after) ← takePairs fuel (depth - 1) [] rest
          some (.table (Entries.toFields entries), after)
    | _ => do
      let (word, rest) := takeWord cs
      some (← word? word, rest)

/-- The items of a list and its closing bracket. -/
def takeItems : Nat → Nat → List Char → Option (List Tree × List Char)
  | 0, _, _ => none
  | fuel + 1, depth, cs => do
    match ← skipFiller cs.length cs with
    | ']' :: after => some ([], after)
    | cs =>
      let (item, rest) ← takeNested fuel depth cs
      match ← skipFiller rest.length rest with
      | ',' :: rest =>
        let (items, after) ← takeItems fuel depth rest
        some (item :: items, after)
      | ']' :: after => some ([item], after)
      | _ => none

/-- The pairs of a table on one line and its closing brace. -/
def takePairs : Nat → Nat → Entries → List Char → Option (Entries × List Char)
  | 0, _, _, _ => none
  | fuel + 1, depth, entries, cs => do
    let (path, key, rest) ← takeKey cs
    match rest with
    | '=' :: rest =>
      let (value, rest) ← takeNested fuel depth (skipBlanks rest)
      let entries ← Entries.addAt path key value .implied entries
      match skipBlanks rest with
      | ',' :: rest => takePairs fuel depth entries rest
      | '\x7d' :: after => some (entries, after)
      | _ => none
    | _ => none

end

/-- A value. -/
def takeValue (cs : List Char) : Option (Tree × List Char) :=
  takeNested (cs.length + 1) depthLimit cs

end ClientWiring.Toml
