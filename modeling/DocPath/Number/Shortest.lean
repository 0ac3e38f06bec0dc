import DocPath.Number.Binary64

/-! # The shortest decimal of a floating point number

Between the midpoints to its two neighbours every decimal is read back as the
same number.  `shortest` finds the fewest digits that lie there, and of those
the nearest; of two that are equally near it takes the even one. -/

namespace DocPath

/-- Decimal digits, the first of them not zero unless it is the only one, and
the power of ten that the first digit counts. -/
structure Digits where
  digits : List Char
  exponent : Int
deriving DecidableEq, Repr

namespace Binary64

/-- Compares `a * 10 ^ k` with `num / den`. -/
def compareScaled (a : Nat) (k : Int) (num den : Nat) : Ordering :=
  if 0 ≤ k then compare (a * Nat.pow 10 k.toNat * den) num
  else compare (a * den) (num * Nat.pow 10 (-k).toNat)

/-- The whole part of `num / den / 10 ^ k`. -/
def floorScaled (k : Int) (num den : Nat) : Nat :=
  if 0 ≤ k then num / (den * Nat.pow 10 k.toNat) else num * Nat.pow 10 (-k).toNat / den

/-- The largest `p` with `10 ^ p ≤ num / den`, searched from a lower bound
on. -/
def leadingExponent (num den : Nat) : Int :=
  let rec go : Nat → Int → Int
    | 0, p => p
    | fuel + 1, p => if compareScaled 1 (p + 1) num den = .gt then p else go fuel (p + 1)
  go 4 (((num.log2 : Int) - den.log2 - 1) * 30103 / 100000 - 1)

/-- Without trailing zeros. -/
def trimZeros (digits : List Char) : List Char :=
  match (digits.reverse.dropWhile (· == '0')).reverse with
  | [] => ['0']
  | ds => ds

/-- The number of digits `n`, counted by tens to the power `p - (n - 1)`, that
the number `num / den` has between the bounds `low / den` and `high / den`; the
bounds themselves count if `closed`. -/
def onGrid? (num low high den : Nat) (closed : Bool) (p : Int) (n : Nat) : Option Digits :=
  let k := p - (n - 1 : Nat)
  let a := floorScaled k num den
  let below :=
    match compareScaled a k low den with
    | .gt => true
    | .eq => closed
    | .lt => false
  let above :=
    match compareScaled (a + 1) k high den with
    | .lt => true
    | .eq => closed
    | .gt => false
  let lowerNearer :=
    match compareScaled (2 * a + 1) k (2 * num) den with
    | .gt => true
    | .eq => a % 2 == 0
    | .lt => false
  let chosen := if below && (!above || lowerNearer) then some a
    else if above then some (a + 1) else none
  chosen.map fun b =>
    let ds := Nat.toDigits 10 b
    ⟨trimZeros ds, k + (ds.length - 1 : Nat)⟩

/-- The shortest digits of a finite number that read back as it, regardless of
its sign. -/
def shortest (x : Binary64) : Digits :=
  if x.magnitude = 0 then ⟨['0'], 0⟩
  else
    let m := x.significand
    let unit := Nat.pow 2 x.scale
    let num := 4 * m * unit
    let high := num + 2 * unit
    let low := if m = Nat.pow 2 52 ∧ 0 < x.scale then num - unit else num - 2 * unit
    let den := 4 * Nat.pow 2 1074
    let p := leadingExponent num den
    let rec search : Nat → Nat → Digits
      | 0, _ => ⟨['0'], 0⟩
      | fuel + 1, n =>
        match onGrid? num low high den (m % 2 == 0) p n with
        | some d => d
        | none => search fuel (n + 1)
    search 18 1

end Binary64

end DocPath
