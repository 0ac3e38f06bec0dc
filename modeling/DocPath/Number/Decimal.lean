import DocPath.Number.Binary64
import DocPath.Number.Integer

/-! # Decimal fractions

The text of a decimal fraction has an integer part, a fraction and an exponent;
one of the first two may be empty, and so may the third altogether.
`Decimal.ofText?` reads it, and `Binary64.ofText?` gives the nearest floating
point number. -/

namespace DocPath

/-- A decimal fraction: `digits * 10 ^ exponent`, with a sign that zero has
too. -/
structure Decimal where
  negative : Bool
  digits : Nat
  exponent : Int
deriving DecidableEq, Repr

namespace Decimal

/-- The decimal fraction without a sign that a text writes. -/
def unsigned? (negative : Bool) (text : List Char) : Option Decimal :=
  let (whole, rest) := text.span Char.isDigit
  let (fraction, rest) := match rest with
    | '.' :: rest => rest.span Char.isDigit
    | _ => ([], rest)
  let value (exponent : Int) : Decimal :=
    ⟨negative, natOfDigits (whole ++ fraction), exponent - fraction.length⟩
  if whole.isEmpty && fraction.isEmpty then none
  else match rest with
    | [] => some (value 0)
    | c :: rest =>
      if c = 'e' ∨ c = 'E' then (intOfText? rest).map value else none

/-- The decimal fraction that a text writes, after an optional sign. -/
def ofText? : List Char → Option Decimal
  | '-' :: text => unsigned? true text
  | '+' :: text => unsigned? false text
  | text => unsigned? false text

end Decimal

/-- The floating point number nearest to the decimal fraction that a text
writes. -/
def Binary64.ofText? (text : List Char) : Option Binary64 :=
  (Decimal.ofText? text).map fun d => ofDecimal d.negative d.digits d.exponent

end DocPath
