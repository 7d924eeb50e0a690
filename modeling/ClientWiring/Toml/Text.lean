import ClientWiring.Text.Hex

/-!
# Texts in TOML

Texts stand between double quotes, where a backslash starts an escape, or between single quotes,
where nothing does; three quotes open a text that may go over several lines.  A line end inside of a
text is always one `\n`.  Each reader takes the characters after the opening quotes and gives those
of the text with the rest.
-/

namespace ClientWiring.Toml

/-- Whether a character may stand in a text or a comment: no control character but the tab. -/
def isTextChar (c : Char) : Bool := c == '\t' || (0x20 ≤ c.toNat && c.toNat != 0x7F)

/-- Whether a character is a blank. -/
def isBlank (c : Char) : Bool := c == ' ' || c == '\t'

/-- The rest of the text without leading blanks. -/
def skipBlanks (cs : List Char) : List Char := cs.dropWhile isBlank

/-- The rest after a line end. -/
def afterNewline? : List Char → Option (List Char)
  | '\n' :: rest => some rest
  | '\r' :: '\n' :: rest => some rest
  | _ => none

/-- The character with a number in hexadecimal digits, and the rest after so many digits. -/
def takeNumbered (width : Nat) (cs : List Char) : Option (Char × List Char) := do
  let digits := cs.take width
  let code ← Text.Hex.number? digits
  if digits.length = width ∧ (code < 0xD800 ∨ (0xE000 ≤ code ∧ code < 0x110000)) then
    some (Char.ofNat code, cs.drop width)
  else none

/-- The character of an escape, after its backslash. -/
def takeEscape : List Char → Option (Char × List Char)
  | 'b' :: rest => some ('\x08', rest)
  | 't' :: rest => some ('\t', rest)
  | 'n' :: rest => some ('\n', rest)
  | 'f' :: rest => some ('\x0c', rest)
  | 'r' :: rest => some ('\r', rest)
  | '"' :: rest => some ('"', rest)
  | '\\' :: rest => some ('\\', rest)
  | 'u' :: rest => takeNumbered 4 rest
  | 'U' :: rest => takeNumbered 8 rest
  | _ => none

/-- A text on one line between double quotes. -/
def takeBasic : Nat → List Char → Option (List Char × List Char)
  | 0, _ => none
  | _ + 1, [] => none
  | _ + 1, '"' :: rest => some ([], rest)
  | fuel + 1, '\\' :: rest => do
    let (c, rest) ← takeEscape rest
    let (tail, after) ← takeBasic fuel rest
    some (c :: tail, after)
  | fuel + 1, c :: rest =>
    if isTextChar c then do
      let (tail, after) ← takeBasic fuel rest
      some (c :: tail, after)
    else none

/-- A text on one line between single quotes. -/
def takeLiteral (cs : List Char) : Option (List Char × List Char) :=
  let chars := cs.takeWhile (· != '\'')
  match cs.dropWhile (· != '\'') with
  | _ :: rest => if chars.all isTextChar then some (chars, rest) else none
  | [] => none

/-- Quotes at the end of a text over several lines: of a row of three or more, up to two belong to
the text and three close it. -/
def takeClosing (quote : Char) (cs : List Char) : Option (List Char × List Char) :=
  let count := (cs.takeWhile (· == quote)).length
  if 3 ≤ count then some (List.replicate (min count 5 - 3) quote, cs.drop (min count 5)) else none

/-- The rest without blanks and line ends. -/
def skipBlankLines : Nat → List Char → List Char
  | 0, cs => cs
  | fuel + 1, cs =>
    let cs := skipBlanks cs
    match afterNewline? cs with
    | some rest => skipBlankLines fuel rest
    | none => cs

/-- A text over several lines.  With escapes, a backslash at the end of a line drops the line end
and all blanks and line ends after it. -/
def takeLines (quote : Char) (escapes : Bool) : Nat → List Char → Option (List Char × List Char)
  | 0, _ => none
  | _ + 1, [] => none
  | fuel + 1, c :: rest =>
    match takeClosing quote (c :: rest) with
    | some closed => some closed
    | none =>
      match afterNewline? (c :: rest) with
      | some rest => do
        let (tail, after) ← takeLines quote escapes fuel rest
        some ('\n' :: tail, after)
      | none =>
        if escapes && c == '\\' then
          match afterNewline? (skipBlanks rest) with
          | some more => takeLines quote escapes fuel (skipBlankLines more.length more)
          | none => do
            let (c, rest) ← takeEscape rest
            let (tail, after) ← takeLines quote escapes fuel rest
            some (c :: tail, after)
        else if isTextChar c then do
          let (tail, after) ← takeLines quote escapes fuel rest
          some (c :: tail, after)
        else none

/-- The rest after a line end that directly follows the opening quotes. -/
def dropFirstNewline (cs : List Char) : List Char := (afterNewline? cs).getD cs

/-- A text, if one starts here. -/
def takeText? (cs : List Char) : Option (List Char × List Char) :=
  match cs with
  | '"' :: '"' :: '"' :: rest => takeLines '"' true (rest.length + 1) (dropFirstNewline rest)
  | '\'' :: '\'' :: '\'' :: rest => takeLines '\'' false (rest.length + 1) (dropFirstNewline rest)
  | '"' :: rest => takeBasic (rest.length + 1) rest
  | '\'' :: rest => takeLiteral rest
  | _ => none

end ClientWiring.Toml
