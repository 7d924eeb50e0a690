import ClientWiring.Inspect

/-!
# Lengths of time

A length of time is a whole number of nanoseconds.  It is shown in the largest of the units second,
millisecond and microsecond of which it has at least one, or else in nanoseconds, with the decimals
that it needs.
-/

namespace ClientWiring

/-- A length of time in whole nanoseconds. -/
structure Duration where
  nanos : Nat
deriving DecidableEq, Repr, Inhabited

namespace Duration

/-- No time. -/
def zero : Duration := ⟨0⟩

/-- A number of milliseconds. -/
def ofMillis (n : Nat) : Duration := ⟨n * 1000000⟩

/-- A number of seconds. -/
def ofSeconds (n : Nat) : Duration := ⟨n * 1000000000⟩

/-- The whole milliseconds. -/
def toMillis (d : Duration) : Nat := d.nanos / 1000000

/-- The shorter of two. -/
def min (a b : Duration) : Duration := ⟨Nat.min a.nanos b.nanos⟩

instance : LT Duration := ⟨fun a b => a.nanos < b.nanos⟩
instance : LE Duration := ⟨fun a b => a.nanos ≤ b.nanos⟩
instance (a b : Duration) : Decidable (a < b) := inferInstanceAs (Decidable (a.nanos < b.nanos))
instance (a b : Duration) : Decidable (a ≤ b) := inferInstanceAs (Decidable (a.nanos ≤ b.nanos))

/-- Drops zeros at the end. -/
def dropZeros (cs : List Char) : List Char := (cs.reverse.dropWhile (· = '0')).reverse

/-- So many units, and so many parts of a unit, of which `10^places` make one. -/
def inUnit (whole part places : Nat) (unit : String) : String :=
  let digits := Nat.toDigits 10 part
  let decimals := dropZeros (List.replicate (places - digits.length) '0' ++ digits)
  let tail := if decimals.isEmpty then [] else '.' :: decimals
  whole.repr ++ String.ofList tail ++ unit

instance : Inspect Duration := ⟨fun d =>
  if 1000000000 ≤ d.nanos then inUnit (d.nanos / 1000000000) (d.nanos % 1000000000) 9 "s"
  else if 1000000 ≤ d.nanos then inUnit (d.nanos / 1000000) (d.nanos % 1000000) 6 "ms"
  else if 1000 ≤ d.nanos then inUnit (d.nanos / 1000) (d.nanos % 1000) 3 "µs"
  else inUnit d.nanos 0 0 "ns"⟩

end Duration

end ClientWiring
