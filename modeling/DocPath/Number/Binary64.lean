/-! # Binary floating point numbers

A `Binary64` is a word of 64 bits: a sign, eleven bits of exponent and fifty-two
of fraction.  The finite numbers are multiples of one smallest unit,
`2 ^ -1074`, so that their arithmetic is exact arithmetic of natural numbers
followed by one rounding, `roundUnits`. -/

namespace DocPath

/-- A floating point number, as its bits. -/
structure Binary64 where
  bits : UInt64
deriving DecidableEq, Repr

namespace Binary64

/-- The bits without the sign. -/
def magnitude (x : Binary64) : Nat := x.bits.toNat % Nat.pow 2 63

def isNegative (x : Binary64) : Bool := decide (Nat.pow 2 63 ≤ x.bits.toNat)

/-- The magnitude of infinity, above which there are only numbers that are
none. -/
def infinityMagnitude : Nat := 2047 * Nat.pow 2 52

def isNaN (x : Binary64) : Bool := decide (infinityMagnitude < x.magnitude)

def isFinite (x : Binary64) : Bool := decide (x.magnitude < infinityMagnitude)

/-- The number with a sign and a magnitude. -/
def ofMagnitude (negative : Bool) (m : Nat) : Binary64 :=
  ⟨UInt64.ofNat ((if negative then Nat.pow 2 63 else 0) + m)⟩

def zero : Binary64 := ofMagnitude false 0
def negativeZero : Binary64 := ofMagnitude true 0

/-- The number with the other sign. -/
def neg (x : Binary64) : Binary64 := ofMagnitude (!x.isNegative) x.magnitude

/-- The place of a number in the order of all numbers.  Both zeros have the
place zero. -/
def rank (x : Binary64) : Int := if x.isNegative then -x.magnitude else x.magnitude

/-- The order of two numbers; a number that is none has no order to anything. -/
def compare? (x y : Binary64) : Option Ordering :=
  if x.isNaN || y.isNaN then none else some (compare x.rank y.rank)

/-- Numerical equality: both zeros are equal, and what is no number equals
nothing. -/
def equal (x y : Binary64) : Bool := x.compare? y == some .eq

/-- The integer significand of a finite number. -/
def significand (x : Binary64) : Nat :=
  if x.magnitude < Nat.pow 2 52 then x.magnitude else Nat.pow 2 52 + x.magnitude % Nat.pow 2 52

/-- The power of two by which the significand of a finite number counts
units. -/
def scale (x : Binary64) : Nat := x.magnitude / Nat.pow 2 52 - 1

/-- The absolute value of a finite number, in units. -/
def units (x : Binary64) : Nat := x.significand * Nat.pow 2 x.scale

/-- The quotient of two natural numbers, rounded to the nearest natural number,
and to the even one of two that are equally near. -/
def roundQuotient (num den : Nat) : Nat :=
  let q := num / den
  let r := num % den
  if 2 * r < den || (2 * r == den && q % 2 == 0) then q else q + 1

/-- The magnitude nearest to `num / den` units, and the even one of two that are
equally near.  What is beyond the largest finite number by half a step or more
is infinite. -/
def roundUnits (num den : Nat) : Nat :=
  let shift := (num / den).log2 - 52
  min (shift * Nat.pow 2 52 + roundQuotient num (den * Nat.pow 2 shift)) infinityMagnitude

/-- The number nearest to `num / den`. -/
def ofRatio (negative : Bool) (num den : Nat) : Binary64 :=
  ofMagnitude negative (roundUnits (num * Nat.pow 2 1074) den)

/-- The number nearest to an integer. -/
def ofInt (n : Int) : Binary64 := ofRatio (decide (n < 0)) n.natAbs 1

/-- The product of two finite numbers. -/
def mul (x y : Binary64) : Binary64 :=
  ofMagnitude (x.isNegative != y.isNegative) (roundUnits (x.units * y.units) (Nat.pow 2 1074))

/-- The quotient of two finite numbers, the second of which is not zero. -/
def div (x y : Binary64) : Binary64 :=
  ofMagnitude (x.isNegative != y.isNegative) (roundUnits (x.units * Nat.pow 2 1074) y.units)

/-- The number nearest to `digits * 10 ^ exponent`.  Exponents beyond the range
of the format are settled without computing the power. -/
def ofDecimal (negative : Bool) (digits : Nat) (exponent : Int) : Binary64 :=
  let leading := exponent + (Nat.toDigits 10 digits).length
  if digits = 0 ∨ leading < -330 then ofMagnitude negative 0
  else if 310 < leading then ofMagnitude negative infinityMagnitude
  else if 0 ≤ exponent then ofRatio negative (digits * Nat.pow 10 exponent.toNat) 1
  else ofRatio negative digits (Nat.pow 10 (-exponent).toNat)

end Binary64

end DocPath
