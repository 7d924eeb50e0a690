/-!
# The fewest decimal digits that read back

A positive binary number `m · 2^q` is what every real number within half a step of it reads back
as; the ends of that interval belong to it when `m` is even, and the step below a power of two is
half as long.  `digits` tries the decimal grids of one, two, … seventeen digits.  On each it looks
at the two grid points around the number and takes one that reads back, the nearer if both do.

## Algorithm

All values are scaled to natural numbers: with `den` the common denominator, the number is
`4·m·scale` and the interval reaches from `low` to `high` in the same unit.
-/

namespace ClientWiring.Decimal

/-- Which of two equally near decimals is taken. -/
inductive Tie where
  | up
  | even
deriving DecidableEq, Repr

/-- A decimal `digits · 10^exponent`. -/
structure Scientific where
  digits : Nat
  exponent : Int
deriving DecidableEq, Repr

/-- A positive binary number with the interval of reals that read back as it, all in quarters of
its last place: `4·m - lower … 4·m + 2`, times `2^(q-2)`. -/
structure Binary where
  mantissa : Nat
  exponent : Int
  /-- Whether the number below is at half the distance. -/
  closeBelow : Bool
deriving DecidableEq, Repr

/-- The leading bit of a mantissa, which the bits of a double leave out. -/
def hiddenBit : Nat := 1 <<< 52

/-- The parts of a positive finite double. -/
def Binary.ofBits (bits : UInt64) : Binary :=
  let fraction : Nat := bits.toNat % hiddenBit
  let biased : Nat := bits.toNat / hiddenBit % 0x800
  if biased = 0 then ⟨fraction, -1074, false⟩
  else ⟨fraction + hiddenBit, (biased : Int) - 1075, fraction == 0 && biased > 1⟩

/-- The number of decimal digits of a natural number, at least one. -/
def digitCount (n : Nat) : Nat := (Nat.toDigits 10 n).length

namespace Binary

/-- The factors that bring the binary scale `2^(q-2)` and the decimal scale `10^e` to natural
numbers: a value of `v` quarters equals `v * scales.1 / scales.2` units of `10^e`. -/
def scales (b : Binary) (e : Int) : Nat × Nat :=
  let q := b.exponent - 2
  let twoUp := if 0 ≤ q then Nat.pow 2 q.toNat else 1
  let twoDown := if 0 ≤ q then 1 else Nat.pow 2 (-q).toNat
  let tenUp := if 0 ≤ e then Nat.pow 10 e.toNat else 1
  let tenDown := if 0 ≤ e then 1 else Nat.pow 10 (-e).toNat
  (twoUp * tenDown, twoDown * tenUp)

/-- Whether the decimal `d · 10^e` reads back as the number. -/
def accepts (b : Binary) (e : Int) (d : Nat) : Bool :=
  let (up, down) := b.scales e
  let low := (4 * b.mantissa - (if b.closeBelow then 1 else 2)) * up
  let high := (4 * b.mantissa + 2) * up
  let point := d * down
  if b.mantissa % 2 = 0 then low ≤ point && point ≤ high else low < point && point < high

/-- The exponent of the first digit: `10^k ≤ m · 2^q < 10^(k+1)`, found from the digits of the
whole part, or by counting how often ten must be multiplied in. -/
def leadingExponent (b : Binary) : Int :=
  if 0 ≤ b.exponent then (digitCount (b.mantissa * Nat.pow 2 b.exponent.toNat) : Int) - 1
  else
    let den := Nat.pow 2 (-b.exponent).toNat
    if den ≤ b.mantissa then (digitCount (b.mantissa / den) : Int) - 1
    else
      -- `mantissa · 10^340 / den` is at least one for every double
      (digitCount (b.mantissa * Nat.pow 10 340 / den) : Int) - 341

/-- The decimal on the grid `10^e` that reads back, the nearer of the two neighbours. -/
def onGrid? (tie : Tie) (b : Binary) (e : Int) : Option Nat :=
  let (up, down) := b.scales e
  let value := 4 * b.mantissa * up
  let floor := value / down
  let rest := value % down
  let below := b.accepts e floor && floor != 0
  let above := b.accepts e (floor + 1)
  if below && above then
    if 2 * rest < down then some floor
    else if down < 2 * rest then some (floor + 1)
    else match tie with
      | .up => some (floor + 1)
      | .even => some (if floor % 2 = 0 then floor else floor + 1)
  else if below then some floor
  else if above then some (floor + 1)
  else none

/-- Tries the grids from the coarsest on. -/
def search (tie : Tie) (b : Binary) (top : Int) : Nat → Scientific
  | 0 => ⟨0, 0⟩
  | n + 1 =>
    let e := top - (17 - (n + 1 : Nat) : Int)
    match b.onGrid? tie e with
    | some d => ⟨d, e⟩
    | none => b.search tie top n

end Binary

/-- Drops zeros at the end of the digits. -/
def Scientific.trim (s : Scientific) : Scientific :=
  if h : s.digits ≠ 0 ∧ s.digits % 10 = 0 then
    Scientific.trim ⟨s.digits / 10, s.exponent + 1⟩
  else s
termination_by s.digits
decreasing_by omega

/-- The fewest digits that read back as a positive finite double, the nearest of those. -/
def shortest (tie : Tie) (bits : UInt64) : Scientific :=
  let b := Binary.ofBits bits
  (b.search tie b.leadingExponent 17).trim

end ClientWiring.Decimal
