/-! # Integers of fixed width

The text of an integer is a row of decimal digits after an optional sign; it is
read if its value fits the width. -/

namespace DocPath

/-- The number written by decimal digits; the empty row writes zero. -/
def natOfDigits (digits : List Char) : Nat :=
  digits.foldl (fun n c => 10 * n + (c.toNat - '0'.toNat)) 0

/-- The number written by decimal digits, unless there is none or another
character. -/
def natOfDigits? (digits : List Char) : Option Nat :=
  if !digits.isEmpty && digits.all Char.isDigit then some (natOfDigits digits) else none

/-- The integer written by decimal digits after an optional sign. -/
def intOfText? : List Char → Option Int
  | '-' :: digits => (natOfDigits? digits).map fun n => -(n : Int)
  | '+' :: digits => (natOfDigits? digits).map fun n => (n : Int)
  | digits => (natOfDigits? digits).map fun n => (n : Int)

/-- The integer of 32 bits with the given value. -/
def int32OfInt? (n : Int) : Option Int32 :=
  if Int32.minValue.toInt ≤ n ∧ n ≤ Int32.maxValue.toInt then some (Int32.ofInt n) else none

/-- The integer of 64 bits with the given value. -/
def int64OfInt? (n : Int) : Option Int64 :=
  if Int64.minValue.toInt ≤ n ∧ n ≤ Int64.maxValue.toInt then some (Int64.ofInt n) else none

/-- The integer of 64 bits that a text writes. -/
def int64OfText? (text : List Char) : Option Int64 :=
  (intOfText? text).bind int64OfInt?

/-- The decimal digits of an integer after a minus sign where it is negative. -/
def textOfInt (n : Int) : String :=
  if n < 0 then "-" ++ Nat.repr n.natAbs else Nat.repr n.natAbs

end DocPath
