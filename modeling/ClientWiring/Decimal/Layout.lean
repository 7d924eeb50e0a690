import ClientWiring.Decimal.Shortest
import ClientWiring.Double

/-!
# Written forms of floating-point numbers

A number is its shortest digits, laid out with a point or with an exponent.  A `Layout` fixes where
the point form ends, and which of two equally near decimals is taken; two layouts are in use, one
for texts read by people and one for messages.  Both always show a fraction in the point form and
write the exponent as `e` with a sign if negative, and without padding; messages give a positive
exponent its sign too.
-/

namespace ClientWiring.Decimal

/-- The decisions of a written form.  The point form is used for `pointFrom ≤ e < pointBelow`,
where `10^e` is the weight of the first digit. -/
structure Layout where
  pointFrom : Int
  pointBelow : Int
  tie : Tie
  /-- Whether a positive exponent has a sign. -/
  signed : Bool
deriving DecidableEq, Repr

/-- Texts read by people: point form from one ten-thousandth up to, but not at, `10^16`. -/
def Layout.inspected : Layout := ⟨-4, 16, .up, false⟩

/-- Messages: point form from one hundred-thousandth up to, but not at, `10^16`. -/
def Layout.message : Layout := ⟨-5, 16, .even, true⟩

/-- The digits with a point before the last `fraction` of them, or zeros to fill. -/
def pointForm (digits : List Char) (exponent : Int) : List Char :=
  if 0 ≤ exponent then digits ++ List.replicate exponent.toNat '0' ++ ['.', '0']
  else
    let fraction := (-exponent).toNat
    if fraction < digits.length then
      digits.take (digits.length - fraction) ++ '.' :: digits.drop (digits.length - fraction)
    else ['0', '.'] ++ List.replicate (fraction - digits.length) '0' ++ digits

/-- The digits with a point after the first, and an exponent. -/
def exponentForm (signed : Bool) (digits : List Char) (leading : Int) : List Char :=
  let head := match digits with
    | [] => []
    | [d] => [d]
    | d :: rest => d :: '.' :: rest
  let sign := if signed ∧ 0 ≤ leading then ['+'] else []
  head ++ 'e' :: sign ++ (toString leading).toList

/-- The written form of a positive finite double. -/
def positiveForm (layout : Layout) (bits : UInt64) : List Char :=
  let s := shortest layout.tie bits
  let digits := Nat.toDigits 10 s.digits
  let leading := s.exponent + digits.length - 1
  if layout.pointFrom ≤ leading ∧ leading < layout.pointBelow then pointForm digits s.exponent
  else exponentForm layout.signed digits leading

/-- The written form of a double. -/
def text (layout : Layout) (x : Double) : String :=
  if !x.isFinite && !x.isInfinite then "NaN"
  else
    let body :=
      if x.isInfinite then ['i', 'n', 'f']
      else if x.magnitude = 0 then ['0', '.', '0']
      else positiveForm layout x.magnitude
    String.ofList (if x.isNegative then '-' :: body else body)

end ClientWiring.Decimal
