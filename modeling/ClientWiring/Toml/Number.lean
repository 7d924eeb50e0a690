import ClientWiring.Decimal.Read
import ClientWiring.Text.Hex
import ClientWiring.Tree.Basic

/-!
# Words, numbers and dates in TOML

A value that is neither a text nor a list nor a table is one word.  A word is a truth value, an
integer of 64 bits, a floating-point number, or a date, a time or both.  Underscores may stand
between two digits of a number.  A date or time is kept in its standard form: a `T` between the two,
a `Z` or a signed offset, and a fraction of at most nine digits.
-/

namespace ClientWiring.Toml

/-- Whether a character belongs to a word. -/
def isWordChar (c : Char) : Bool :=
  c.isAlphanum || c == '_' || c == '+' || c == '-' || c == '.' || c == ':'

/-- Digits without the underscores between them. -/
def digits? (isDigit : Char → Bool) : List Char → Option (List Char)
  | [] => none
  | [c] => if isDigit c then some [c] else none
  | c :: '_' :: d :: rest =>
    if isDigit c then (digits? isDigit (d :: rest)).map (c :: ·) else none
  | c :: rest => if isDigit c then (digits? isDigit rest).map (c :: ·) else none

/-- Decimal digits without a leading zero. -/
def wholeDigits? (cs : List Char) : Option (List Char) := do
  let digits ← digits? Char.isDigit cs
  if digits.head? = some '0' ∧ 1 < digits.length then none else some digits

/-- A sign and what follows it. -/
def splitSign : List Char → Bool × List Char
  | '-' :: rest => (true, rest)
  | '+' :: rest => (false, rest)
  | cs => (false, cs)

/-- An integer that fits into 64 bits. -/
def fitting? (n : Int) : Option Tree :=
  if Int64.minValue.toInt ≤ n ∧ n ≤ Int64.maxValue.toInt then some (.int n) else none

/-- The number of digits in a base. -/
def inBase (base : Nat) (digits : List Char) : Nat :=
  digits.foldl (fun n c => n * base + (Text.Hex.digit? c).getD 0) 0

/-- An integer. -/
def integer? (cs : List Char) : Option Tree :=
  match cs with
  | '0' :: 'x' :: rest => do
    fitting? (inBase 16 (← digits? (fun c => (Text.Hex.digit? c).isSome) rest))
  | '0' :: 'o' :: rest => do
    fitting? (inBase 8 (← digits? (fun c => '0' ≤ c && c ≤ '7') rest))
  | '0' :: 'b' :: rest => do
    fitting? (inBase 2 (← digits? (fun c => c == '0' || c == '1') rest))
  | _ => do
    let (negative, cs) := splitSign cs
    let n : Int := Decimal.ofDigits (← wholeDigits? cs)
    fitting? (if negative then -n else n)

/-- The number in an exponent. -/
def exponent? (cs : List Char) : Option Int := do
  let (negative, cs) := splitSign cs
  let n : Int := Decimal.ofDigits (← digits? Char.isDigit cs)
  some (if negative then -n else n)

/-- Splits at the first character of a kind. -/
def splitAtFirst (stop : Char → Bool) (cs : List Char) : List Char × Option (List Char) :=
  match cs.dropWhile fun c => !stop c with
  | [] => (cs, none)
  | _ :: rest => (cs.takeWhile fun c => !stop c, some rest)

/-- An infinite number or no number, after the sign. -/
def special? (negative : Bool) (cs : List Char) : Option Tree :=
  match cs with
  | ['i', 'n', 'f'] => some (.float (.ofFloat (if negative then -1.0 / 0.0 else 1.0 / 0.0)))
  | ['n', 'a', 'n'] => some (.float (if negative then Double.notANumber.negate else .notANumber))
  | _ => none

/-- A floating-point number with a fraction or an exponent; one too large is refused. -/
def fractional? (negative : Bool) (cs : List Char) : Option Tree := do
  let (mantissa, power) := splitAtFirst (fun c => c == 'e' || c == 'E') cs
  let (whole, fraction) := splitAtFirst (· == '.') mantissa
  if power.isNone && fraction.isNone then none
  else
    let whole ← wholeDigits? whole
    let fraction ← match fraction with
      | none => some []
      | some digits => digits? Char.isDigit digits
    let exponent ← match power with
      | none => some 0
      | some power => exponent? power
    let x := Decimal.Parts.toFloat ⟨negative, whole, fraction, exponent⟩
    if x == 1.0 / 0.0 then none else some (.float (.ofFloat x))

/-- A floating-point number. -/
def float? (cs : List Char) : Option Tree :=
  let (negative, cs) := splitSign cs
  (special? negative cs).or (fractional? negative cs)

/-! ## Dates -/

/-- A number of exactly so many digits within limits. -/
def fixed? (width low high : Nat) (cs : List Char) : Option (Nat × List Char) :=
  let digits := cs.take width
  let n := Decimal.ofDigits digits
  if digits.length = width ∧ digits.all Char.isDigit ∧ low ≤ n ∧ n ≤ high then
    some (n, cs.drop width)
  else none

/-- Drops a mark that has to be there. -/
def mark? (c : Char) : List Char → Option (List Char)
  | d :: rest => if c = d then some rest else none
  | [] => none

/-- The number of days in a month. -/
def daysIn (year month : Nat) : Nat :=
  if month = 2 then
    if year % 4 = 0 ∧ (year % 100 ≠ 0 ∨ year % 400 = 0) then 29 else 28
  else if month = 4 ∨ month = 6 ∨ month = 9 ∨ month = 11 then 30
  else 31

/-- The rest after a date. -/
def afterDate? (cs : List Char) : Option (List Char) := do
  let (year, cs) ← fixed? 4 0 9999 cs
  let (month, cs) ← fixed? 2 1 12 (← mark? '-' cs)
  let (_, cs) ← fixed? 2 1 (daysIn year month) (← mark? '-' cs)
  some cs

/-- The fraction of a second: at most nine digits, without zeros at their end. -/
def fractionText (digits : List Char) : List Char :=
  match (digits.take 9).reverse.dropWhile (· == '0') with
  | [] => []
  | kept => '.' :: kept.reverse

/-- The time of day at the start of a word, and the rest. -/
def timeText? (cs : List Char) : Option (List Char × List Char) := do
  let (_, rest) ← fixed? 2 0 23 cs
  let (_, rest) ← fixed? 2 0 59 (← mark? ':' rest)
  let (_, rest) ← fixed? 2 0 60 (← mark? ':' rest)
  let clock := cs.take 8
  match rest with
  | '.' :: rest =>
    let digits := rest.takeWhile Char.isDigit
    if digits.isEmpty then none
    else some (clock ++ fractionText digits, rest.dropWhile Char.isDigit)
  | _ => some (clock, rest)

/-- The offset from universal time that ends a word, if there is one; no difference is positive. -/
def offsetText? (cs : List Char) : Option (List Char) :=
  match cs with
  | [] => some []
  | ['Z'] | ['z'] => some ['Z']
  | sign :: rest => do
    let (hours, after) ← fixed? 2 0 23 rest
    let (minutes, after) ← fixed? 2 0 59 (← mark? ':' after)
    if !after.isEmpty then none
    else if sign = '-' then
      some ((if hours = 0 ∧ minutes = 0 then '+' else '-') :: rest)
    else if sign = '+' then some cs
    else none

/-- Whether a character stands between a date and a time. -/
def isDateMark (c : Char) : Bool := c == 'T' || c == 't' || c == ' '

/-- The standard form of a date, a time, or a date with a time and perhaps an offset. -/
def dateTimeText? (cs : List Char) : Option (List Char) :=
  match afterDate? cs with
  | some [] => some cs
  | some (c :: rest) => do
    let (time, after) ← timeText? rest
    let offset ← offsetText? after
    if isDateMark c then some (cs.take 10 ++ 'T' :: time ++ offset) else none
  | none => do
    let (time, after) ← timeText? cs
    if after.isEmpty then some time else none

/-- The field that marks a table as a date or time. -/
def dateTimeField : String := "$__toml_private_datetime"

/-- A date or time. -/
def dateTime? (cs : List Char) : Option Tree :=
  (dateTimeText? cs).map fun form => .table [(dateTimeField, .text (String.ofList form))]

/-! ## Words -/

/-- The value of a word. -/
def word? (cs : List Char) : Option Tree :=
  match cs with
  | ['t', 'r', 'u', 'e'] => some (.bool true)
  | ['f', 'a', 'l', 's', 'e'] => some (.bool false)
  | _ => ((integer? cs).or (float? cs)).or (dateTime? cs)

/-- The word that starts here.  A blank between a date and a digit belongs to the word. -/
def takeWord (cs : List Char) : List Char × List Char :=
  let word := cs.takeWhile isWordChar
  let rest := cs.dropWhile isWordChar
  match rest with
  | ' ' :: d :: _ =>
    if d.isDigit && afterDate? word == some [] then
      let time := (rest.drop 1).takeWhile isWordChar
      (word ++ ' ' :: time, (rest.drop 1).dropWhile isWordChar)
    else (word, rest)
  | _ => (word, rest)

end ClientWiring.Toml
