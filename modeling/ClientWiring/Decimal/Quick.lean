import ClientWiring.Decimal.Read

/-!
# Reading decimals in a few steps

The quick reading of a decimal makes a double of its first digits, as many as fit into 64 bits, and
scales it by a power of ten.  Both steps round, so the result may be a neighbour of the nearest
double.  A result beyond the range of doubles is refused; one too small for it is zero.

## Algorithm

Digits are taken up while the number stays below `2^64`.  The digits of the whole part that do not
fit count as powers of ten, those of the fraction are dropped.  The powers of ten reach to `10^308`;
a smaller scale is divided out `10^308` by `10^308`, and three such steps bring any number of 64
bits to zero.
-/

namespace ClientWiring.Decimal

/-- Takes up digits while the number stays below `2^64`; the number and the digits left. -/
def takeUp (n : Nat) : List Char → Nat × List Char
  | [] => (n, [])
  | c :: rest =>
    let next := n * 10 + (c.toNat - 48)
    if next < UInt64.size then takeUp next rest else (n, c :: rest)

/-- The power of ten, up to the three-hundred-and-eighth. -/
def powerOfTen (exponent : Nat) : Float := Float.ofScientific 1 false exponent

/-- Divides by a power of ten, at most three times by the greatest. -/
def scaleDown : Nat → Float → Nat → Float
  | 0, _, _ => 0.0
  | fuel + 1, x, exponent =>
    if exponent ≤ 308 then x / powerOfTen exponent
    else if x == 0.0 then x
    else scaleDown fuel (x / powerOfTen 308) (exponent - 308)

/-- Scales by a power of ten; nothing if the result is beyond the range of doubles. -/
def scale? (x : Float) (exponent : Int) : Option Float :=
  if exponent < 0 then some (scaleDown 4 x exponent.natAbs)
  else if x == 0.0 then some x
  else if exponent ≤ 308 then
    let y := x * powerOfTen exponent.toNat
    if y.isFinite then some y else none
  else none

/-- The quick reading of a decimal in parts. -/
def Parts.quick? (p : Parts) : Option Float := do
  let (n, beyond) := takeUp 0 p.whole
  let (digits, dropped) := takeUp n p.fraction
  let places : Int := p.fraction.length - dropped.length
  let x ← scale? (Float.ofNat digits) (p.exponent + beyond.length - places)
  some (if p.negative then -x else x)

end ClientWiring.Decimal
