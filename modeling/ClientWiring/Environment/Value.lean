import ClientWiring.Decimal.Read
import ClientWiring.Text.Blank
import ClientWiring.Text.Caseless
import ClientWiring.Text.Hex
import ClientWiring.Tree.Basic

/-!
# Values of environment variables

The value of a variable is read as a tree: a truth value, a table `{k=v, …}`, a list `[v, …]`, a
text between double quotes, a character between single quotes, a number, or plain text up to the
next comma, brace or bracket.  A value that cannot be read as a whole is a text as it stands.
-/

namespace ClientWiring.Environment

/-- Whether a character is a blank between the parts of a value. -/
def isSpace (c : Char) : Bool :=
  c == ' ' || c == '\t' || c == '\n' || c == '\x0c' || c == '\r'

/-- The rest without leading blanks. -/
def skipSpaces (cs : List Char) : List Char := cs.dropWhile isSpace

/-- Whether plain text goes on. -/
def isPlain (c : Char) : Bool :=
  c != ',' && c != '\x7b' && c != '\x7d' && c != '[' && c != ']'

/-- Whether a character may stand in a key without quotes. -/
def isKeyChar (c : Char) : Bool := c.isAlphanum || c == '_' || c == '-'

/-! ## Texts between quotes -/

/-- The character with a number in hexadecimal digits, and the rest after so many digits. -/
def takeCode (width : Nat) (cs : List Char) : Option (Char × List Char) := do
  let digits := cs.take width
  let code ← Text.Hex.number? digits
  if digits.length = width ∧ (code < 0xD800 ∨ (0xE000 ≤ code ∧ code < 0x110000)) then
    some (Char.ofNat code, cs.drop width)
  else none

/-- Whether a character stands for itself between quotes. -/
def isQuotedChar (c : Char) : Bool :=
  c != '"' && c != '\\' && (c == '\t' || (0x20 ≤ c.toNat && c.toNat != 0x7F))

/-- The rest of a text up to its closing quote, with its escapes undone. -/
def takeEscaped : Nat → List Char → Option (List Char × List Char)
  | 0, _ => none
  | _ + 1, [] => none
  | _ + 1, '"' :: rest => some ([], rest)
  | fuel + 1, '\\' :: c :: rest => do
    let (plain, rest) ← match c with
      | '"' => some ('"', rest)
      | '\\' => some ('\\', rest)
      | 'b' => some ('\x08', rest)
      | 'f' => some ('\x0c', rest)
      | 'n' => some ('\n', rest)
      | 'r' => some ('\r', rest)
      | 't' => some ('\t', rest)
      | 'u' => takeCode 4 rest
      | 'U' => takeCode 8 rest
      | _ => none
    let (tail, after) ← takeEscaped fuel rest
    some (plain :: tail, after)
  | fuel + 1, c :: rest =>
    if isQuotedChar c then do
      let (tail, after) ← takeEscaped fuel rest
      some (c :: tail, after)
    else none

/-- The characters that fill so many bytes, if no character goes beyond. -/
def takeBytes? : Nat → List Char → Option (List Char)
  | 0, _ => some []
  | _ + 1, [] => none
  | n + 1, c :: rest =>
    if c.utf8Size ≤ n + 1 then (takeBytes? (n + 1 - c.utf8Size) rest).map (c :: ·) else none

/-- A text up to its closing quote.  If it has escapes, the characters before the first one are cut
to as many bytes as they are characters; a cut inside of a character makes the text unreadable. -/
def takeQuoted (cs : List Char) : Option (List Char × List Char) := do
  let before := cs.takeWhile isQuotedChar
  match cs.dropWhile isQuotedChar with
  | '"' :: after => some (before, after)
  | rest =>
    let (tail, after) ← takeEscaped (rest.length + 1) rest
    some ((← takeBytes? before.length before) ++ tail, after)

/-! ## Numbers and plain text -/

/-- A sign and what follows it. -/
def splitSign : List Char → Bool × List Char
  | '-' :: rest => (true, rest)
  | '+' :: rest => (false, rest)
  | cs => (false, cs)

/-- A decimal with a point, an infinite number, or no number. -/
def float? (cs : List Char) : Option Float :=
  let (negative, body) := splitSign cs
  let word := body.map Char.toLower
  if word = ['i', 'n', 'f'] ∨ word = ['i', 'n', 'f', 'i', 'n', 'i', 't', 'y'] then
    some (if negative then -1.0 / 0.0 else 1.0 / 0.0)
  else if word = ['n', 'a', 'n'] then some (0.0 / 0.0)
  else
    let whole := body.takeWhile Char.isDigit
    let (fraction, rest) := match body.dropWhile Char.isDigit with
      | '.' :: rest => (rest.takeWhile Char.isDigit, rest.dropWhile Char.isDigit)
      | rest => ([], rest)
    if whole.isEmpty && fraction.isEmpty then none
    else
      match Decimal.takeExponent? rest with
      | some (exponent, []) => some (Decimal.Parts.toFloat ⟨negative, whole, fraction, exponent⟩)
      | _ => none

/-- An integer of 64 bits, with or without a sign. -/
def integer? (cs : List Char) : Option Int :=
  let (negative, digits) := splitSign cs
  if digits.isEmpty || !digits.all Char.isDigit then none
  else
    let n := Decimal.ofDigits digits
    if negative then if Int64.minValue.toInt ≤ -(n : Int) then some (-n) else none
    else if n < UInt64.size then some n else none

/-- The value of plain text without blanks at its ends. -/
def plain (cs : List Char) : Tree :=
  let float := if cs.contains '.' then float? cs else none
  match float with
  | some x => .float (.ofFloat x)
  | none =>
    match integer? cs with
    | some n => .int n
    | none => .text (String.ofList cs)

/-! ## Values -/

/-- A key of a table. -/
def takeKey (cs : List Char) : Option (String × List Char) :=
  match cs with
  | '"' :: rest => (takeQuoted rest).map fun r => (String.ofList r.1, r.2)
  | _ =>
    let key := cs.takeWhile isKeyChar
    if key.isEmpty then none else some (String.ofList key, cs.dropWhile isKeyChar)

mutual

/-- A value with the blanks around it. -/
def takeValue : Nat → List Char → Option (Tree × List Char)
  | 0, _ => none
  | fuel + 1, cs => do
    let (value, rest) ← match skipSpaces cs with
      | 't' :: 'r' :: 'u' :: 'e' :: rest => some (Tree.bool true, rest)
      | 'f' :: 'a' :: 'l' :: 's' :: 'e' :: rest => some (Tree.bool false, rest)
      | '\x7b' :: rest => do
        let (fields, after) ← takePairs fuel rest
        let table := fields.foldl (fun fs p => Tree.setField fs p.1 p.2) []
        some (Tree.table table, after)
      | '[' :: rest => do
        let (items, after) ← takeItems fuel rest
        some (Tree.list items, after)
      | '"' :: rest => do
        let (chars, after) ← takeQuoted rest
        some (Tree.text (String.ofList chars), after)
      | '\'' :: rest =>
        match rest with
        | c :: '\'' :: after => some (Tree.text (String.singleton c), after)
        | _ => none
      | cs => some (plain (Text.trim (cs.takeWhile isPlain)), cs.dropWhile isPlain)
    some (value, skipSpaces rest)

/-- The items of a list and its closing bracket; a comma may follow the last item. -/
def takeItems : Nat → List Char → Option (List Tree × List Char)
  | 0, _ => none
  | _ + 1, ']' :: after => some ([], after)
  | fuel + 1, cs => do
    let (item, rest) ← takeValue fuel cs
    match rest with
    | ',' :: rest =>
      let (items, after) ← takeItems fuel rest
      some (item :: items, after)
    | ']' :: after => some ([item], after)
    | _ => none

/-- The pairs of a table and its closing brace; a comma may follow the last pair. -/
def takePairs : Nat → List Char → Option (List (String × Tree) × List Char)
  | 0, _ => none
  | _ + 1, '\x7d' :: after => some ([], after)
  | fuel + 1, cs => do
    let (key, rest) ← takeKey (skipSpaces cs)
    match skipSpaces rest with
    | '=' :: rest =>
      let (value, rest) ← takeValue fuel rest
      match rest with
      | ',' :: rest =>
        let (pairs, after) ← takePairs fuel rest
        some ((key, value) :: pairs, after)
      | '\x7d' :: after => some ([(key, value)], after)
      | _ => none
    | _ => none

end

/-- The tree that the value of a variable stands for. -/
def parseValue (text : String) : Tree :=
  match takeValue (text.length + 2) text.toList with
  | some (value, []) => value
  | _ => .text text

end ClientWiring.Environment
