/-!
# Reading decimals

Rows of digits as natural numbers, and decimals with a fraction and an exponent as doubles.  A
decimal far outside the range of doubles is told by its exponent alone, so that no huge power is
ever computed.
-/

namespace ClientWiring.Decimal

/-- The number that a row of decimal digits stands for. -/
def ofDigits (cs : List Char) : Nat :=
  cs.foldl (fun n c => n * 10 + (c.toNat - 48)) 0

/-- The double nearest to `digits · 10^exponent`. -/
def toFloat (negative : Bool) (digits : Nat) (exponent : Int) : Float :=
  let magnitude : Float :=
    if digits = 0 then 0.0
    else
      let leading := exponent + ((Nat.toDigits 10 digits).length : Int)
      if leading > 400 then 1.0 / 0.0
      else if leading < -400 then 0.0
      else if exponent < 0 then Float.ofScientific digits true (-exponent).toNat
      else Float.ofScientific digits false exponent.toNat
  if negative then -magnitude else magnitude

/-- The parts of a decimal in text: sign, digits before and after the point, exponent. -/
structure Parts where
  negative : Bool
  whole : List Char
  fraction : List Char
  exponent : Int

/-- The double nearest to a decimal in parts. -/
def Parts.toFloat (p : Parts) : Float :=
  Decimal.toFloat p.negative (ofDigits (p.whole ++ p.fraction)) (p.exponent - p.fraction.length)

/-- Reads `[eE][+-]?digits` at the start of a row of characters; zero when there is none. -/
def takeExponent? (cs : List Char) : Option (Int × List Char) :=
  match cs with
  | 'e' :: rest | 'E' :: rest =>
    let (negative, rest) := match rest with
      | '-' :: r => (true, r)
      | '+' :: r => (false, r)
      | r => (false, r)
    let digits := rest.takeWhile Char.isDigit
    if digits.isEmpty then none
    else
      let n : Int := ofDigits digits
      some (if negative then -n else n, rest.dropWhile Char.isDigit)
  | _ => some (0, cs)

end ClientWiring.Decimal
