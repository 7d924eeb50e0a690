import ClientWiring.Environment.Layer
import ClientWiring.Environment.Lines
import ClientWiring.Text.Alphanumeric

/-!
# Variables from a file

A variables file sets variables that are not set yet, line after line, and is read up to the first
line that says nothing sensible.  A line is `NAME=value`, with `export` before the name if one
likes.  In a value, single quotes keep everything as it is, double quotes keep blanks, a backslash
takes the next character as it is, and `$NAME` stands for a variable.
-/

namespace ClientWiring.Environment

/-! ## Values -/

/-- Where a reader of a value stands. -/
structure ValueState where
  strong : Bool
  weak : Bool
  escaped : Bool
  ended : Bool
  output : List Char
deriving DecidableEq, Repr

/-- At the start of a value. -/
def ValueState.start : ValueState := ⟨false, false, false, false, []⟩

/-- The state with further output. -/
def ValueState.push (s : ValueState) (cs : List Char) : ValueState :=
  { s with output := s.output ++ cs }

/-- The character that an escape stands for. -/
def unescape? : Char → Option Char
  | '\\' => some '\\'
  | '\'' => some '\''
  | '"' => some '"'
  | '$' => some '$'
  | ' ' => some ' '
  | 'n' => some '\n'
  | _ => none

/-- The state after a character that starts no variable. -/
def ValueState.step (s : ValueState) (c : Char) : ValueState :=
  if s.weak then
    if c = '"' then { s with weak := false }
    else if c = '\\' then { s with escaped := true }
    else s.push [c]
  else if c = '\'' then { s with strong := true }
  else if c = '"' then { s with weak := true }
  else if c = '\\' then { s with escaped := true }
  else if c = ' ' ∨ c = '\t' then { s with ended := true }
  else s.push [c]

/-- Reads a value; `value` gives the values of variables. -/
def readValue (value : String → String) : Nat → ValueState → List Char → Option (List Char)
  | 0, _, _ => none
  | fuel + 1, s, cs =>
    match cs with
    | [] => if s.strong || s.weak then none else some s.output
    | c :: rest =>
      if s.ended then
        if c = ' ' ∨ c = '\t' then readValue value fuel s rest
        else if c = '#' then some s.output
        else none
      else if s.escaped then
        match unescape? c with
        | some plain => readValue value fuel ({ s with escaped := false }.push [plain]) rest
        | none => none
      else if s.strong then
        if c = '\'' then readValue value fuel { s with strong := false } rest
        else readValue value fuel (s.push [c]) rest
      else if c = '$' then
        match rest with
        | '\x7b' :: inner =>
          let name := inner.takeWhile (· != '\x7d')
          match inner.dropWhile (· != '\x7d') with
          | [] => none
          | _ :: rest => readValue value fuel (s.push (value (String.ofList name)).toList) rest
        | _ =>
          let name := rest.takeWhile Text.isAlphanumeric
          let s := s.push (value (String.ofList name)).toList
          -- The character after the name belongs to the value, whatever it is.
          match rest.dropWhile Text.isAlphanumeric with
          | [] => readValue value fuel s []
          | '$' :: more => readValue value fuel s ('$' :: more)
          | c :: more => readValue value fuel (s.push [c]) more
      else readValue value fuel (s.step c) rest

/-! ## Lines -/

/-- The environment with the values that the lines so far gave, which may differ from it. -/
structure FileReading where
  environment : Environment
  values : List (String × String)

/-- The value that a variable has in a later line. -/
def FileReading.valueOf (r : FileReading) (name : String) : String :=
  match r.environment.get? name with
  | some value => value
  | none => ((r.values.find? (·.1 = name)).map (·.2)).getD ""

/-- Whether a name can start with a character. -/
def startsName (c : Char) : Bool := c.isAlpha || c == '_'

/-- Whether a name can go on with a character. -/
def inName (c : Char) : Bool := c.isAlphanum || c == '_' || c == '.'

/-- The name of a variable. -/
def takeName (cs : List Char) : Option (List Char × List Char) :=
  if cs.head?.any startsName then some (cs.takeWhile inName, cs.dropWhile inName) else none

/-- The rest after an equals sign with blanks around it. -/
def afterEquals? (cs : List Char) : Option (List Char) :=
  match Text.trimStart cs with
  | '=' :: rest => some (Text.trimStart rest)
  | _ => none

/-- The word that may stand before a name. -/
def exportWord : List Char := ['e', 'x', 'p', 'o', 'r', 't']

/-- The name of a line, and the rest after its equals sign. -/
def takeAssignment (cs : List Char) : Option (List Char × List Char) := do
  let (name, rest) ← takeName cs
  match afterEquals? rest with
  | some rest => some (name, rest)
  | none =>
    if name = exportWord then
      let (name, rest) ← takeName (Text.trimStart rest)
      some (name, ← afterEquals? rest)
    else none

/-- What a line says: nothing, or the value of a variable. -/
def readLine (r : FileReading) (line : List Char) : Option (Option (String × String)) :=
  let cs := Text.trim line
  if cs.isEmpty || cs.head? = some '#' then some none
  else do
    let (name, rest) ← takeAssignment cs
    let value ←
      if rest.isEmpty || rest.head? = some '#' then some []
      else readValue r.valueOf (2 * rest.length + 2) .start rest
    some (some (String.ofList name, String.ofList value))

/-- Reads lines up to the end or the first that cannot be read. -/
def readLines : Nat → FileReading → List Char → Environment
  | 0, r, _ => r.environment
  | fuel + 1, r, cs =>
    match takeLine (cs.length + 1) .plain [] cs with
    | .finished | .unfinished => r.environment
    | .line line rest =>
      match readLine r line with
      | none => r.environment
      | some none => readLines fuel r rest
      | some (some (name, value)) =>
        readLines fuel
          ⟨r.environment.setIfNew name value, (name, value) :: r.values⟩ rest

/-- The environment after a variables file was read; a byte-order mark at its start is skipped. -/
def addFile (e : Environment) (text : String) : Environment :=
  let cs := match text.toList with
    | '\uFEFF' :: rest => rest
    | cs => cs
  readLines (cs.length + 1) ⟨e, []⟩ cs

end ClientWiring.Environment
