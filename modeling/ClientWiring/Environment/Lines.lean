import ClientWiring.Text.Blank

/-!
# Lines of a variables file

A line of a variables file ends at a line end outside of quotes, so that a value between quotes can
go over several lines.  A `#` after a blank starts a comment.  A file that ends inside of quotes, or
right after a blank, has an unfinished line.
-/

namespace ClientWiring.Environment

/-- Where a reader of a line stands. -/
inductive LineState where
  | plain
  | blank
  | escape
  | weak
  | weakEscape
  | strong
  | strongEscape
deriving DecidableEq, Repr

/-- The state after a character outside of quotes, where nothing special came before. -/
def LineState.ofPlain (c : Char) : LineState :=
  if Text.isBlank c && c != '\n' && c != '\r' then .blank
  else if c = '\\' then .escape
  else if c = '"' then .weak
  else if c = '\'' then .strong
  else .plain

/-- The state after a character; there is none where a comment starts. -/
def LineState.next? (s : LineState) (c : Char) : Option LineState :=
  match s with
  | .plain => some (.ofPlain c)
  | .blank =>
    if c = '#' then none
    else if c = '\\' then some .escape
    else if c = '"' then some .weak
    else if c = '\'' then some .strong
    else some .plain
  | .escape => some .plain
  | .weak => some (if c = '\\' then .weakEscape else if c = '"' then .plain else .weak)
  | .weakEscape => some .weak
  | .strong => some (if c = '\\' then .strongEscape else if c = '\'' then .plain else .strong)
  | .strongEscape => some .strong

/-- The characters of a row up to and with its line end, and the rest. -/
def takePhysical : List Char → List Char × List Char
  | [] => ([], [])
  | '\n' :: rest => (['\n'], rest)
  | c :: rest =>
    let (line, after) := takePhysical rest
    (c :: line, after)

/-- What a row of characters does to the state: it ends in a state, or a comment starts after so
many characters. -/
def scan (s : LineState) (count : Nat) : List Char → Except Nat LineState
  | [] => .ok s
  | c :: rest =>
    match s.next? c with
    | none => .error count
    | some s => scan s (count + 1) rest

/-- A line without its line end. -/
def dropLineEnd (line : List Char) : List Char :=
  match line.reverse with
  | '\n' :: '\r' :: rest | '\n' :: rest => rest.reverse
  | _ => line

/-- A step of reading lines: a line, or the end of the lines that can be read. -/
inductive LineStep where
  | line (text : List Char) (rest : List Char)
  | finished
  | unfinished
deriving DecidableEq, Repr

/-- Reads one line, of which some rows were read before. -/
def takeLine : Nat → LineState → List Char → List Char → LineStep
  | 0, _, _, _ => .unfinished
  | fuel + 1, s, before, cs =>
    match cs with
    | [] => if s = .plain then .finished else .unfinished
    | _ =>
      let (row, rest) := takePhysical cs
      let line := before ++ row
      if (Text.trimStart line).head? = some '#' then .line [] rest
      else
        match scan s 0 row with
        | .error count => .line (before ++ row.take count) rest
        | .ok .plain => .line (dropLineEnd line) rest
        | .ok s => takeLine fuel s line rest

end ClientWiring.Environment
