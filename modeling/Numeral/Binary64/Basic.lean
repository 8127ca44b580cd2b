namespace Numeral

-- Powers are those of the core library, whatever else is imported.
attribute [local instance (high)] instPowNat

/-- A binary64 floating point number, as its 64 bits. -/
structure Binary64 where
  bits : UInt64
  deriving DecidableEq

namespace Binary64

/-- The sign bit; it is set for a negative zero too. -/
def signBit (x : Binary64) : Bool :=
  2 ^ (63 : Nat) ≤ x.bits.toNat

/-- The exponent field. -/
def field (x : Binary64) : Nat :=
  x.bits.toNat / 2 ^ (52 : Nat) % 2 ^ (11 : Nat)

/-- The fraction field. -/
def fraction (x : Binary64) : Nat :=
  x.bits.toNat % 2 ^ (52 : Nat)

def isFinite (x : Binary64) : Bool :=
  x.field ≠ 2047

def isInfinite (x : Binary64) : Bool :=
  x.field = 2047 && x.fraction = 0

def isNaN (x : Binary64) : Bool :=
  x.field = 2047 && x.fraction ≠ 0

/-- The magnitude of a finite number is `significand * 2 ^ exponent`. -/
def significand (x : Binary64) : Nat :=
  if x.field = 0 then x.fraction else 2 ^ (52 : Nat) + x.fraction

def exponent (x : Binary64) : Int :=
  max x.field 1 - 1075

/-- Whether the number is zero, of either sign. -/
def isZero (x : Binary64) : Bool :=
  x.field = 0 && x.fraction = 0

/-- Whether the number is below zero: no zero and no NaN is. -/
def isNegative (x : Binary64) : Bool :=
  x.signBit && !x.isZero && !x.isNaN

end Binary64

end Numeral
