/-!
# Hexadecimal digits

`digit?` reads a digit in either case; `lowerDigits` and `upperDigit` write them.  Main statement:
a written digit reads back (`digit?_upperDigit`).
-/

namespace ClientWiring.Text.Hex

/-- The value of a hexadecimal digit. -/
def digit? (c : Char) : Option Nat :=
  if '0' ≤ c ∧ c ≤ '9' then some (c.toNat - 48)
  else if 'a' ≤ c ∧ c ≤ 'f' then some (c.toNat - 87)
  else if 'A' ≤ c ∧ c ≤ 'F' then some (c.toNat - 55)
  else none

/-- The upper-case digit of a value below sixteen. -/
def upperDigit (n : Nat) : Char := Char.ofNat (if n < 10 then 48 + n else 55 + n)

/-- A number in lower-case digits, without leading zeros. -/
def lowerDigits (n : Nat) : List Char := Nat.toDigits 16 n

/-- A number in at least the given count of lower-case digits. -/
def padded (width n : Nat) : List Char :=
  let digits := lowerDigits n
  List.replicate (width - digits.length) '0' ++ digits

/-- The number that a row of digits stands for, if there is at least one and all are digits. -/
def number? (cs : List Char) : Option Nat :=
  if cs.isEmpty then none
  else cs.foldl (fun acc c => do some ((← acc) * 16 + (← digit? c))) (some 0)

theorem digit?_upperDigit : ∀ n, n < 16 → digit? (upperDigit n) = some n := by decide

end ClientWiring.Text.Hex
