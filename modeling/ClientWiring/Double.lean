/-!
# Floating-point numbers by their bits

A `Double` is one of the patterns of the binary format of 64 bits: a sign, eleven bits of exponent,
and a fraction of 52 bits.  Two doubles are equal exactly if all their bits are, so zero has two
signs, and so has each pattern that stands for no number.  Arithmetic is done on `Float`, which does
not tell those patterns apart.

    x.negate.negate = x      (negate_negate)
-/

namespace ClientWiring

/-- A floating-point number of 64 bits. -/
structure Double where
  bits : UInt64
deriving DecidableEq, Inhabited, Repr

namespace Double

/-- The double that a computation gave. -/
def ofFloat (x : Float) : Double := ⟨x.toBits⟩

/-- The number to compute with. -/
def toFloat (x : Double) : Float := Float.ofBits x.bits

/-- The bit of the sign. -/
def signBit : UInt64 := 0x8000000000000000

/-- The bits of the positive infinite number; greater ones without sign stand for no number. -/
def infinityBits : UInt64 := 0x7FF0000000000000

/-- No number, with a positive sign. -/
def notANumber : Double := ⟨0x7FF8000000000000⟩

/-- The double with the other sign. -/
def negate (x : Double) : Double := ⟨x.bits ^^^ signBit⟩

/-- Whether the sign is negative. -/
def isNegative (x : Double) : Bool := signBit ≤ x.bits

/-- The bits without the sign. -/
def magnitude (x : Double) : UInt64 := if x.isNegative then x.bits - signBit else x.bits

/-- Whether the bits stand for a number that is not infinite. -/
def isFinite (x : Double) : Bool := x.magnitude < infinityBits

/-- Whether the bits stand for an infinite number. -/
def isInfinite (x : Double) : Bool := x.magnitude == infinityBits

theorem negate_negate (x : Double) : x.negate.negate = x := by
  show Double.mk ((x.bits ^^^ signBit) ^^^ signBit) = x
  rw [UInt64.xor_assoc, UInt64.xor_self, UInt64.xor_zero]

end Double

end ClientWiring
