import DocPath.Number.Binary64
import DocPath.Number.Integer
import DocPath.Value.Basic

/-! # Numbers in JSON texts

A number that is written as an integer and fits 64 bits is one; any other number
is floating point.  It is read as a significand of at most 64 bits and a power
of ten, so that it may miss the nearest floating point number by the rounding of
one product or quotient.  A number beyond the range of floating point is
refused. -/

namespace DocPath.Json

/-- A number on its way to floating point: a significand, the power of ten it is
multiplied by, and whether the significand has no room for another digit. -/
structure Scaled where
  significand : Nat := 0
  exponent : Int := 0
  full : Bool := false

namespace Scaled

/-- The greatest significand. -/
def limit : Nat := UInt64.size - 1

/-- Takes in a digit before the point.  What the significand has no room for
multiplies it. -/
def pushWhole (s : Scaled) (c : Char) : Scaled :=
  let extended := 10 * s.significand + (c.toNat - '0'.toNat)
  if s.full || limit < extended then { s with exponent := s.exponent + 1, full := true }
  else { s with significand := extended }

/-- Takes in a digit after the point.  What the significand has no room for is
left out. -/
def pushFraction (s : Scaled) (c : Char) : Scaled :=
  let extended := 10 * s.significand + (c.toNat - '0'.toNat)
  if s.full || limit < extended then { s with full := true }
  else { s with significand := extended, exponent := s.exponent - 1 }

/-- The greatest exponent that is written out. -/
def exponentLimit : Int := Int32.maxValue.toInt

/-- Keeps an exponent within 32 bits. -/
def clamp (e : Int) : Int := max Int32.minValue.toInt (min exponentLimit e)

/-- The power of ten as a floating point number. -/
def powerOfTen (k : Nat) : Binary64 := .ofRatio false (Nat.pow 10 k) 1

/-- The significand times the power of ten.  A power that is too small is
applied in parts. -/
def scale? (exponent : Int) : Nat → Binary64 → Option Binary64
  | rounds, f =>
    if exponent.natAbs ≤ 308 then
      let p := powerOfTen exponent.natAbs
      let r := if 0 ≤ exponent then f.mul p else f.div p
      if r.isFinite then some r else none
    else if f.magnitude = 0 then some f
    else if 0 ≤ exponent then none
    else match rounds with
      | 0 => some f
      | rounds + 1 => scale? (exponent + 308) rounds (f.div (powerOfTen 308))

/-- The floating point number.  Four rounds take the greatest significand to
zero. -/
def value? (s : Scaled) (negative : Bool) : Option Binary64 :=
  (scale? s.exponent 4 (.ofInt s.significand)).map fun f => if negative then f.neg else f

end Scaled

/-- A number that is written as an integer; zero with a minus sign is floating
point. -/
def integerValue? (negative : Bool) (digits : List Char) : Option Value :=
  let s := digits.foldl Scaled.pushWhole {}
  let n : Int := if negative then -(s.significand : Int) else s.significand
  if s.full || (negative && n == 0) then (s.value? negative).map .double
  else match int32OfInt? n with
    | some k => some (.int k)
    | none =>
      match int64OfInt? n with
      | some k => some (.long k)
      | none => (s.value? negative).map .double

/-- The floating point number with the digits before and after the point and the
exponent. -/
def floatValue? (negative : Bool) (whole fraction : List Char) (exponentNegative : Bool)
    (exponent : Nat) : Option Value :=
  let s := fraction.foldl Scaled.pushFraction
    { whole.foldl Scaled.pushWhole {} with full := false }
  if Scaled.exponentLimit < exponent then
    if s.significand != 0 && !exponentNegative then none
    else some (.double (.ofMagnitude negative 0))
  else
    let e : Int := if exponentNegative then -exponent else exponent
    (({ s with exponent := Scaled.clamp (s.exponent + e) } : Scaled).value? negative).map .double

/-- The number at the head of a text.  A zero stands alone before the point, and
a point or the letter of an exponent needs a digit after it. -/
def number? (text : List Char) : Option (Value × List Char) :=
  let (negative, text) := match text with
    | '-' :: rest => (true, rest)
    | rest => (false, rest)
  let (whole, rest) := text.span Char.isDigit
  if whole.isEmpty || (whole.head? == some '0' && whole.length != 1) then none
  else
    let fraction? : Option (List Char × List Char) := match rest with
      | '.' :: rest =>
        let (digits, rest) := rest.span Char.isDigit
        if digits.isEmpty then none else some (digits, rest)
      | rest => some ([], rest)
    match fraction? with
    | none => none
    | some (fraction, rest) =>
      let exponent? : Option ((Bool × Nat) × List Char × Bool) := match rest with
        | c :: rest' =>
          if c = 'e' ∨ c = 'E' then
            let (minus, rest') := match rest' with
              | '-' :: r => (true, r)
              | '+' :: r => (false, r)
              | r => (false, r)
            let (digits, rest') := rest'.span Char.isDigit
            (natOfDigits? digits).map fun n => ((minus, n), rest', true)
          else some ((false, 0), rest, false)
        | [] => some ((false, 0), rest, false)
      match exponent? with
      | none => none
      | some ((minus, exponent), rest, scientific) =>
        let value := if fraction.isEmpty && !scientific then integerValue? negative whole
          else floatValue? negative whole fraction minus exponent
        value.map fun v => (v, rest)

end DocPath.Json
