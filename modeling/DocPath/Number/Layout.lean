import DocPath.Number.Shortest

/-! # Layouts of floating point numbers

A layout decides how the shortest digits of a number are written: up to which
exponent they stand in their place around the point, and how the exponent is
written otherwise. -/

namespace DocPath

/-- How the digits of a number are written. -/
structure FloatLayout where
  /-- The least and the greatest exponent of the first digit that is written
  without an exponent. -/
  leastPlain : Int
  greatestPlain : Int
  /-- Whether an exponent that is not negative has a plus sign. -/
  plusSign : Bool

namespace FloatLayout

/-- The layout of numbers in JSON texts. -/
def json : FloatLayout := ⟨-5, 15, true⟩

/-- The layout of numbers in texts for developers. -/
def plain : FloatLayout := ⟨-5, 15, false⟩

/-- Digits in their place around the point, with a digit on either side of
it. -/
def placed (d : Digits) : List Char :=
  if 0 ≤ d.exponent then
    let wholeLength := d.exponent.toNat + 1
    let whole := d.digits.take wholeLength
    let fraction := d.digits.drop wholeLength
    whole ++ List.replicate (wholeLength - whole.length) '0' ++ '.' ::
      (if fraction.isEmpty then ['0'] else fraction)
  else
    '0' :: '.' :: List.replicate ((-d.exponent).toNat - 1) '0' ++ d.digits

/-- One digit, the others after a point, and the exponent. -/
def scientific (l : FloatLayout) (d : Digits) : List Char :=
  let fraction := d.digits.tail
  d.digits.take 1 ++ (if fraction.isEmpty then [] else '.' :: fraction) ++ 'e' ::
    (if d.exponent < 0 then ['-'] else if l.plusSign then ['+'] else []) ++
    Nat.toDigits 10 d.exponent.natAbs

/-- The text of a finite number. -/
def text (l : FloatLayout) (x : Binary64) : String :=
  let d := x.shortest
  let body := if l.leastPlain ≤ d.exponent ∧ d.exponent ≤ l.greatestPlain then placed d
    else l.scientific d
  String.ofList ((if x.isNegative then ['-'] else []) ++ body)

end FloatLayout

end DocPath
