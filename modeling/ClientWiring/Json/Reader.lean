import ClientWiring.Tree.Basic
import ClientWiring.Decimal.Quick
import ClientWiring.Text.Hex

/-!
# Reading JSON text

Each reader takes a row of characters and gives a value with the characters after it.  A number
without point and exponent is an integer if it lies between `-2^63` and `2^64 - 1`; any other number
is a double by its quick reading, and one beyond the range of doubles is refused.  `-0` is the
double zero with a sign.  Values are nested no deeper than the text is long, which is the fuel of
the readers.
-/

namespace ClientWiring.Json

/-- The rest of the text without leading blanks. -/
def skipBlanks (cs : List Char) : List Char :=
  cs.dropWhile fun c => c = ' ' || c = '\t' || c = '\n' || c = '\r'

/-- Four hexadecimal digits. -/
def takeUnit (cs : List Char) : Option (Nat × List Char) := do
  let (digits, rest) := cs.splitAt 4
  if digits.length = 4 then some (← Text.Hex.number? digits, rest) else none

/-- The characters of a string up to its closing quote. -/
def takeString : Nat → List Char → Option (List Char × List Char)
  | 0, _ => none
  | _ + 1, [] => none
  | _ + 1, '"' :: rest => some ([], rest)
  | fuel + 1, '\\' :: 'u' :: rest => do
    let (high, rest) ← takeUnit rest
    if 0xD800 ≤ high ∧ high < 0xDC00 then
      match rest with
      | '\\' :: 'u' :: more =>
        let (low, more) ← takeUnit more
        if 0xDC00 ≤ low ∧ low < 0xE000 then
          let code := 0x10000 + (high - 0xD800) * 0x400 + (low - 0xDC00)
          let (tail, after) ← takeString fuel more
          some (Char.ofNat code :: tail, after)
        else none
      | _ => none
    else if 0xDC00 ≤ high ∧ high < 0xE000 then none
    else
      let (tail, after) ← takeString fuel rest
      some (Char.ofNat high :: tail, after)
  | fuel + 1, '\\' :: c :: rest => do
    let plain ← match c with
      | '"' => some '"'
      | '\\' => some '\\'
      | '/' => some '/'
      | 'b' => some '\x08'
      | 'f' => some '\x0c'
      | 'n' => some '\n'
      | 'r' => some '\r'
      | 't' => some '\t'
      | _ => none
    let (tail, after) ← takeString fuel rest
    some (plain :: tail, after)
  | fuel + 1, c :: rest => do
    if c.toNat < 0x20 ∨ c = '\\' then none
    else
      let (tail, after) ← takeString fuel rest
      some (c :: tail, after)

/-- A number, after its sign. -/
def takeNumber (negative : Bool) (cs : List Char) : Option (Tree × List Char) := do
  let whole := cs.takeWhile Char.isDigit
  let rest := cs.dropWhile Char.isDigit
  if whole.isEmpty ∨ (whole.head? = some '0' ∧ whole.length > 1) then none
  else
    let (fraction, afterPoint) ← match rest with
      | '.' :: more =>
        let digits := more.takeWhile Char.isDigit
        if digits.isEmpty then none else some (digits, more.dropWhile Char.isDigit)
      | _ => some ([], rest)
    let (exponent, after) ← Decimal.takeExponent? afterPoint
    let value : Int := if negative then -(Decimal.ofDigits whole : Int) else Decimal.ofDigits whole
    let integral := after.length = rest.length
    let fits := Int64.minValue.toInt ≤ value ∧ value < UInt64.size
    if integral ∧ fits ∧ ¬ (negative ∧ value = 0) then
      some (.int value, after)
    else
      let x ← Decimal.Parts.quick? ⟨negative, whole, fraction, exponent⟩
      some (.float (.ofFloat x), after)

mutual

/-- A value, after blanks. -/
def takeValue : Nat → List Char → Option (Tree × List Char)
  | 0, _ => none
  | fuel + 1, cs =>
    match skipBlanks cs with
    | 'n' :: 'u' :: 'l' :: 'l' :: rest => some (.null, rest)
    | 't' :: 'r' :: 'u' :: 'e' :: rest => some (.bool true, rest)
    | 'f' :: 'a' :: 'l' :: 's' :: 'e' :: rest => some (.bool false, rest)
    | '"' :: rest => do
      let (chars, after) ← takeString (rest.length + 1) rest
      some (.text (String.ofList chars), after)
    | '[' :: rest =>
      match skipBlanks rest with
      | ']' :: after => some (.list [], after)
      | _ => do
        let (items, after) ← takeItems fuel rest
        some (.list items, after)
    | '\x7b' :: rest =>
      match skipBlanks rest with
      | '\x7d' :: after => some (.table [], after)
      | _ => do
        let (fields, after) ← takeFields fuel rest
        some (.table (fields.foldl (fun fs p => Tree.setField fs p.1 p.2) []), after)
    | '-' :: rest => takeNumber true rest
    | rest => takeNumber false rest

/-- The items of a list and its closing bracket. -/
def takeItems : Nat → List Char → Option (List Tree × List Char)
  | 0, _ => none
  | fuel + 1, cs => do
    let (item, rest) ← takeValue fuel cs
    match skipBlanks rest with
    | ',' :: more =>
      let (items, after) ← takeItems fuel more
      some (item :: items, after)
    | ']' :: after => some ([item], after)
    | _ => none

/-- The fields of a table and its closing brace. -/
def takeFields : Nat → List Char → Option (List (String × Tree) × List Char)
  | 0, _ => none
  | fuel + 1, cs => do
    match skipBlanks cs with
    | '"' :: rest =>
      let (name, rest) ← takeString (rest.length + 1) rest
      match skipBlanks rest with
      | ':' :: rest =>
        let (value, rest) ← takeValue fuel rest
        match skipBlanks rest with
        | ',' :: more =>
          let (fields, after) ← takeFields fuel more
          some ((String.ofList name, value) :: fields, after)
        | '\x7d' :: after => some ([(String.ofList name, value)], after)
        | _ => none
      | _ => none
    | _ => none

end

/-- The tree of a JSON text. -/
def parse (s : String) : Option Tree :=
  match takeValue (s.length + 1) s.toList with
  | some (t, rest) => if (skipBlanks rest).isEmpty then some t else none
  | none => none

end ClientWiring.Json
